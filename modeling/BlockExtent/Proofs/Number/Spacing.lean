import BlockExtent.Number.Literal
import BlockExtent.Proofs.Number.Interval

/-!
# The spacing of the numbers

Two binary64 numbers are as far apart as the gap between a number and its nearest neighbour,
which is below it when its mantissa is the smallest one of its exponent.  What is nearer to a
number than half of this gap is nearer to it than to any other number, whatever their signs are.

## Main definitions

* `Binary64.toRat`, `Literal.toRat` — the numbers that a word and a literal stand for.
* `Literal.SinglesOut` — a literal is nearer to a number than to any other.

## Main results

* `Binary64.IsCanonical.eq_of_value_eq` — the value settles mantissa and exponent.
* `Binary64.IsCanonical.spacing_le` — **numbers are at least a gap apart.**
* `Literal.singlesOut_of_near` — what is within half of the gap.
-/

namespace BlockExtent

open Binary64

/-! ### Signs -/

/-- A number with a sign in front of it. -/
def signed (negative : Bool) (q : ℚ) : ℚ := if negative then -q else q

/-- Numbers of one sign are as far apart as they are without it. -/
theorem abs_signed_sub (negative : Bool) (q r : ℚ) :
    |signed negative q - signed negative r| = |q - r| := by
  cases negative with
  | false => rfl
  | true => exact (congrArg abs (neg_sub_neg q r)).trans (abs_sub_comm r q)

/-- Numbers of different signs are as far apart as they are from zero, taken together. -/
theorem abs_signed_sub_of_ne {negative negative' : Bool} (h : negative' ≠ negative) {q r : ℚ}
    (hq : 0 ≤ q) (hr : 0 ≤ r) : |signed negative q - signed negative' r| = q + r := by
  have hsum := add_nonneg hq hr
  cases negative with
  | false =>
    obtain rfl : negative' = true := by simpa using h
    change |q - -r| = q + r
    rw [sub_neg_eq_add, abs_of_nonneg hsum]
  | true =>
    obtain rfl : negative' = false := by simpa using h
    change |-q - r| = q + r
    rw [← neg_add', abs_neg, abs_of_nonneg hsum]

/-- The number that a word stands for, zero if it is not a finite one. -/
def Binary64.toRat : Binary64 → ℚ
  | .finite negative mantissa exponent => signed negative (mantissa * 2 ^ exponent)
  | _ => 0

/-- Whether a word has a minus sign. -/
def Binary64.isNegative : Binary64 → Bool
  | .nan => false
  | .infinite negative => negative
  | .finite negative _ _ => negative

/-- The number that a literal stands for. -/
def Literal.toRat (l : Literal) : ℚ := signed l.negative l.magnitude.toRat

/-! ### Numbers without their signs -/

namespace Binary64.IsCanonical

variable {m m' : ℕ} {e e' : ℤ}

/-- A number of a larger exponent is a multiple of the smaller unit. -/
theorem exists_multiple (m' : ℕ) (h : e ≤ e') :
    ∃ n : ℕ, n = m' * 2 ^ (e' - e).toNat ∧ (m' * 2 ^ e' : ℚ) = n * 2 ^ e := by
  refine ⟨_, rfl, ?_⟩
  push_cast
  rw [mul_assoc, ← zpow_natCast, ← zpow_add₀ two_ne_zero]
  congr 2
  omega

/-- A number of a larger exponent has more than 53 bits in the smaller unit. -/
theorem le_of_exponent_lt (h' : IsCanonical m' e') (hle : -1074 ≤ e) (hlt : e < e') :
    2 ^ 53 ≤ m' * 2 ^ (e' - e).toNat := by
  have hmantissa : 2 ^ 52 ≤ m' := h'.normal.resolve_left (by omega)
  have hpower : 2 ^ 1 ≤ 2 ^ (e' - e).toNat := Nat.pow_le_pow_right (by decide) (by omega)
  calc 2 ^ 53 = 2 ^ 52 * 2 ^ 1 := by norm_num
    _ ≤ m' * 2 ^ (e' - e).toNat := Nat.mul_le_mul hmantissa hpower

/-- Numbers of one value have one exponent, unless one exponent is the larger one. -/
private theorem exponent_le_of_value_eq (h : IsCanonical m e) (h' : IsCanonical m' e')
    (hvalue : (m * 2 ^ e : ℚ) = m' * 2 ^ e') : e' ≤ e := by
  by_contra hlt
  obtain ⟨n, hn, hmultiple⟩ := exists_multiple m' (le_of_not_ge hlt)
  have hmany := h'.le_of_exponent_lt h.le_exponent (lt_of_not_ge hlt)
  have hunit : (2 : ℚ) ^ e ≠ 0 := by positivity
  rw [hmultiple] at hvalue
  have hmn : m = n := by exact_mod_cast mul_right_cancel₀ hunit hvalue
  have := h.mantissa_lt
  omega

/-- **The value settles mantissa and exponent.** -/
theorem eq_of_value_eq (h : IsCanonical m e) (h' : IsCanonical m' e')
    (hvalue : (m * 2 ^ e : ℚ) = m' * 2 ^ e') : m = m' ∧ e = e' := by
  have hexponent : e = e' := le_antisymm (exponent_le_of_value_eq h' h hvalue.symm)
    (exponent_le_of_value_eq h h' hvalue)
  subst hexponent
  have hunit : (2 : ℚ) ^ e ≠ 0 := by positivity
  exact ⟨by exact_mod_cast mul_right_cancel₀ hunit hvalue, rfl⟩

/-- Different multiples of a unit are at least the unit apart. -/
private theorem unit_le_abs_sub {n : ℕ} (hne : n ≠ m) (e : ℤ) :
    (2 : ℚ) ^ e ≤ |(n * 2 ^ e : ℚ) - m * 2 ^ e| := by
  have hunit : (0 : ℚ) < 2 ^ e := by positivity
  have hone : (1 : ℤ) ≤ |(n : ℤ) - m| := Int.one_le_abs (by omega)
  have honeq : (1 : ℚ) ≤ |(n : ℚ) - m| := by exact_mod_cast hone
  rw [← sub_mul, abs_mul, abs_of_pos hunit]
  calc (2 : ℚ) ^ e = 1 * 2 ^ e := (one_mul _).symm
    _ ≤ |(n : ℚ) - m| * 2 ^ e := mul_le_mul_of_nonneg_right honeq hunit.le

/-- A number of a smaller exponent is below all those whose mantissas have 53 bits. -/
private theorem value_le_of_exponent_lt (h' : IsCanonical m' e') (hlt : e' < e) :
    (m' * 2 ^ e' : ℚ) ≤ (2 ^ 52 - 1 / 2) * 2 ^ e := by
  have hm' : (m' : ℚ) ≤ 2 ^ 53 - 1 := by
    have : (m' : ℚ) + 1 ≤ 2 ^ 53 := by exact_mod_cast h'.mantissa_lt
    linarith
  have hpower : (2 : ℚ) ^ e' ≤ 2 ^ (e - 1) := zpow_le_zpow_right₀ one_le_two (by omega)
  calc (m' * 2 ^ e' : ℚ)
      ≤ (2 ^ 53 - 1) * 2 ^ (e - 1) := mul_le_mul hm' hpower (by positivity) (by norm_num)
    _ = (2 ^ 52 - 1 / 2) * 2 ^ e := by
        rw [zpow_sub_one₀ two_ne_zero]
        ring

/-- **Numbers are at least a gap apart**, which is twice the one below a number. -/
theorem spacing_le (h : IsCanonical m e) (h' : IsCanonical m' e')
    (hne : (m' * 2 ^ e' : ℚ) ≠ m * 2 ^ e) :
    2 * ReadingInterval.gapBelow m e * 2 ^ e ≤ |(m' * 2 ^ e' : ℚ) - m * 2 ^ e| := by
  have hunit : (0 : ℚ) < 2 ^ e := by positivity
  have hgap := ReadingInterval.gapBelow_le m e
  have hwide : 2 * ReadingInterval.gapBelow m e * 2 ^ e ≤ 2 ^ e := by nlinarith
  by_cases hexponent : e ≤ e'
  · -- both are multiples of the unit of the first
    obtain ⟨n, -, hmultiple⟩ := exists_multiple m' hexponent
    rw [hmultiple] at hne ⊢
    have hnm : n ≠ m := by
      rintro rfl
      exact hne rfl
    exact hwide.trans (unit_le_abs_sub hnm e)
  · -- the other one is below all numbers with the unit of the first
    have hlt := lt_of_not_ge hexponent
    have hlow := h'.le_exponent
    have hmantissa : 2 ^ 52 ≤ m := h.normal.resolve_left (by omega)
    have hhalf := value_le_of_exponent_lt h' hlt
    rw [abs_sub_comm]
    refine le_trans ?_ (le_abs_self _)
    by_cases hnarrow : m = 2 ^ 52
    · have hquarter : ReadingInterval.gapBelow m e = 1 / 4 := by
        have he : e ≠ -1074 := by omega
        simp [ReadingInterval.gapBelow, narrowBelow, hnarrow, he]
      rw [hquarter, hnarrow]
      push_cast
      linarith
    · have hm : (2 : ℚ) ^ 52 + 1 ≤ m := by
        have : 2 ^ 52 + 1 ≤ m := by omega
        exact_mod_cast this
      nlinarith

/-- What is within half of the gap is nearer to a number than to any other. -/
theorem abs_sub_lt_of_near (h : IsCanonical m e) (h' : IsCanonical m' e') {q : ℚ}
    (hq : |q / 2 ^ e - m| < ReadingInterval.gapBelow m e)
    (hne : (m' * 2 ^ e' : ℚ) ≠ m * 2 ^ e) : |q - m * 2 ^ e| < |q - m' * 2 ^ e'| := by
  have hunit : (0 : ℚ) < 2 ^ e := by positivity
  have hspacing := h.spacing_le h' hne
  have hdistance : |q - m * 2 ^ e| < ReadingInterval.gapBelow m e * 2 ^ e := by
    rw [← div_lt_iff₀ hunit, ← abs_of_pos hunit, ← abs_div, abs_of_pos hunit, sub_div,
      mul_div_cancel_right₀ _ hunit.ne']
    exact hq
  have htriangle := abs_sub_le (m' * 2 ^ e' : ℚ) q (m * 2 ^ e)
  rw [abs_sub_comm (m' * 2 ^ e' : ℚ) q] at htriangle
  linarith

end Binary64.IsCanonical

/-! ### Literals -/

/-- A literal is strictly nearer to a number than to any other finite one, but for the two
zeros, which its sign tells apart. -/
structure Literal.SinglesOut (l : Literal) (x : Float) : Prop where
  negative_eq : l.negative = (ofFloat x).isNegative
  nearer : ∀ y : Float, y.isFinite = true → y ≠ x →
    |l.toRat - (ofFloat x).toRat| < |l.toRat - (ofFloat y).toRat|
      ∨ ((ofFloat x).toRat = 0 ∧ (ofFloat y).toRat = 0 ∧ (ofFloat y).isNegative ≠ l.negative)

theorem Decimal.toRat_nonneg (d : Decimal) : 0 ≤ d.toRat := by
  unfold toRat
  positivity

/-- **What is within half of the gap singles a number out**, with the sign of the number. -/
theorem Literal.singlesOut_of_near {x : Float} {negative : Bool} {m : ℕ} {e : ℤ}
    (hx : ofFloat x = .finite negative m e) {d : Decimal}
    (hnear : |d.toRat / 2 ^ e - m| < ReadingInterval.gapBelow m e) :
    SinglesOut ⟨negative, d⟩ x := by
  obtain ⟨hcanonical, hbits⟩ := eq_ofBits_of_ofFloat hx
  refine ⟨by rw [hx]; rfl, fun y hfinite hne => ?_⟩
  obtain ⟨negative', m', e', hy⟩ := (isFinite_iff y).mp hfinite
  obtain ⟨hcanonical', hbits'⟩ := eq_ofBits_of_ofFloat hy
  have hnonneg := d.toRat_nonneg
  have hvalue : (0 : ℚ) ≤ m * 2 ^ e := by positivity
  have hvalue' : (0 : ℚ) ≤ m' * 2 ^ e' := by positivity
  rw [hx, hy]
  unfold toRat Binary64.toRat Binary64.isNegative
  dsimp only
  rw [abs_signed_sub]
  by_cases hsign : negative' = negative
  · -- numbers of one sign have different values
    subst hsign
    left
    rw [abs_signed_sub]
    refine hcanonical.abs_sub_lt_of_near hcanonical' hnear fun hsame => ?_
    obtain ⟨rfl, rfl⟩ := hcanonical'.eq_of_value_eq hcanonical hsame
    exact hne (hbits'.trans hbits.symm)
  · -- a number of the other sign is no nearer than zero
    rw [abs_signed_sub_of_ne hsign hnonneg hvalue']
    have hzero : IsCanonical 0 (-1074) := ⟨by decide, by decide, by decide, .inl rfl⟩
    rcases eq_or_lt_of_le hvalue with hm | hm
    · rcases eq_or_lt_of_le hvalue' with hm' | hm'
      · right
        rw [← hm, ← hm']
        refine ⟨?_, ?_, hsign⟩ <;> unfold signed <;> split <;> simp
      · left
        rw [← hm, sub_zero, abs_of_nonneg hnonneg]
        linarith
    · left
      have hfar := hcanonical.abs_sub_lt_of_near hzero hnear (by simpa using hm.ne)
      rw [Nat.cast_zero, zero_mul, sub_zero, abs_of_nonneg hnonneg] at hfar
      linarith

end BlockExtent
