import BlockExtent.Number.Shortest
import BlockExtent.Proofs.Number.Bits
import BlockExtent.Proofs.Number.Quotient
import Mathlib.Data.Nat.Cast.Order.Field

/-!
# Decimals that read back

The shortest decimal of a number is found in the interval of decimals that lie
nearer to it than to any other number.  Reading rounds to the nearest number, so
every decimal in that interval reads back, and on a grid of seventeen digits there
always is one.

## Main definitions

* `ReadingInterval.Holds` — the rational numbers of an interval.

## Main results

* `nearestWord_eq` — what is in the interval of a number is read as that number.
* `shortestDecimal_holds` — the shortest decimal is in the interval.
* `nearestWord_shortestDecimal` — the shortest decimal of a number is read as
  that number.
-/

namespace BlockExtent

open Binary64

namespace ReadingInterval

/-- Whether a rational number is in the interval. -/
def Holds (i : ReadingInterval) (q : ℚ) : Prop :=
  if i.closed then i.low * 2 ^ i.exponent ≤ q ∧ q ≤ i.high * 2 ^ i.exponent
  else i.low * 2 ^ i.exponent < q ∧ q < i.high * 2 ^ i.exponent

/-- Deciding in natural numbers whether a decimal is in an interval is right. -/
theorem contains_iff (i : ReadingInterval) (d : Decimal) :
    i.contains d = true ↔ i.Holds d.toRat := by
  have hden := scaledRatio_den_pos 1 i.exponent (-d.exponent)
  have hunit := scaledRatio_toRat 1 i.exponent (-d.exponent)
  unfold contains Holds Decimal.toRat
  dsimp only
  generalize scaledRatio 1 i.exponent (-d.exponent) = unit at hden hunit
  have hdenq : (0 : ℚ) < unit.2 := by positivity
  have hten : (0 : ℚ) < 10 ^ d.exponent := by positivity
  -- the unit of the interval, in units of the last place of the decimal
  have hexp : (2 : ℚ) ^ i.exponent = unit.1 / unit.2 * 10 ^ d.exponent := by
    rw [hunit, zpow_neg]
    field_simp
    norm_num
  have hle : ∀ n c : ℕ, n * unit.1 ≤ c * unit.2
      ↔ (n : ℚ) * 2 ^ i.exponent ≤ c * 10 ^ d.exponent := by
    intro n c
    rw [hexp, ← mul_assoc, mul_le_mul_iff_left₀ hten, ← mul_div_assoc, div_le_iff₀ hdenq]
    exact_mod_cast Iff.rfl
  have hge : ∀ n c : ℕ, c * unit.2 ≤ n * unit.1
      ↔ (c : ℚ) * 10 ^ d.exponent ≤ n * 2 ^ i.exponent := by
    intro n c
    rw [hexp, ← mul_assoc, mul_le_mul_iff_left₀ hten, ← mul_div_assoc, le_div_iff₀ hdenq]
    exact_mod_cast Iff.rfl
  cases i.closed
  · simp only [Bool.false_eq_true, ↓reduceIte, Bool.and_eq_true, decide_eq_true_eq]
    rw [← not_le, ← not_le, ← not_le, ← not_le, hle, hge]
  · simp only [↓reduceIte, Bool.and_eq_true, decide_eq_true_eq]
    rw [hle, hge]

/-- The distance from a number to the lower end of its interval, in units of the
last place. -/
def gapBelow (mantissa : ℕ) (exponent : ℤ) : ℚ :=
  if narrowBelow mantissa exponent then 1 / 4 else 1 / 2

theorem gapBelow_le (mantissa : ℕ) (exponent : ℤ) :
    gapBelow mantissa exponent ≤ 1 / 2 := by
  unfold gapBelow
  split <;> norm_num

/-- A mantissa with a narrow gap below it is even. -/
private theorem gapBelow_of_odd {mantissa : ℕ} (exponent : ℤ) (h : mantissa % 2 ≠ 0) :
    gapBelow mantissa exponent = 1 / 2 := by
  unfold gapBelow
  rw [if_neg]
  intro hnarrow
  simp only [narrowBelow, Bool.and_eq_true, beq_iff_eq, Nat.pow_eq] at hnarrow
  obtain ⟨hmantissa, -⟩ := hnarrow
  omega

/-- The interval of a number, in units of its last place. -/
private theorem holds_ofBinary_iff {mantissa : ℕ} (exponent : ℤ) (q : ℚ) (hpos : 0 < mantissa) :
    (ofBinary mantissa exponent).Holds q ↔
      if mantissa % 2 = 0 then
        mantissa - gapBelow mantissa exponent ≤ q / 2 ^ exponent
          ∧ q / 2 ^ exponent ≤ mantissa + 1 / 2
      else
        mantissa - gapBelow mantissa exponent < q / 2 ^ exponent
          ∧ q / 2 ^ exponent < mantissa + 1 / 2 := by
  have hunit : (0 : ℚ) < 2 ^ exponent := by positivity
  have hexp : (2 : ℚ) ^ (exponent - 2) = 2 ^ exponent / 4 := by
    rw [zpow_sub₀ two_ne_zero]
    norm_num
  obtain ⟨r, rfl⟩ : ∃ r, q = r * 2 ^ exponent := ⟨q / 2 ^ exponent, by field_simp⟩
  -- the ends are kept in quarters of the last place
  have hlow : (((ofBinary mantissa exponent).low : ℕ) : ℚ)
      = 4 * (mantissa - gapBelow mantissa exponent) := by
    unfold ofBinary gapBelow
    dsimp only
    rw [Nat.cast_sub (by split <;> omega)]
    split <;> push_cast <;> ring
  have hhigh : (((ofBinary mantissa exponent).high : ℕ) : ℚ) = 4 * (mantissa + 1 / 2) := by
    unfold ofBinary
    push_cast
    ring
  have hle : ∀ a b : ℚ, 4 * a * (2 ^ exponent / 4) ≤ b * 2 ^ exponent ↔ a ≤ b := by
    intro a b
    rw [show 4 * a * ((2 : ℚ) ^ exponent / 4) = a * 2 ^ exponent by ring,
      mul_le_mul_iff_left₀ hunit]
  have hge : ∀ a b : ℚ, b * 2 ^ exponent ≤ 4 * a * (2 ^ exponent / 4) ↔ b ≤ a := by
    intro a b
    rw [show 4 * a * ((2 : ℚ) ^ exponent / 4) = a * 2 ^ exponent by ring,
      mul_le_mul_iff_left₀ hunit]
  have hclosed : (ofBinary mantissa exponent).closed = true ↔ mantissa % 2 = 0 := by
    unfold ofBinary
    exact beq_iff_eq
  unfold Holds
  rw [mul_div_cancel_right₀ _ hunit.ne', hlow, hhigh,
    show (ofBinary mantissa exponent).exponent = exponent - 2 from rfl, hexp]
  by_cases heven : mantissa % 2 = 0
  · rw [if_pos (hclosed.mpr heven), if_pos heven, hle, hge]
  · rw [if_neg (mt hclosed.mp heven), if_neg heven, ← not_le, ← not_le, hle, hge, not_le, not_le]

/-- What is in the interval of a number is rounded to its mantissa. -/
private theorem bounds_of_holds {mantissa : ℕ} {exponent : ℤ} {q : ℚ} (hpos : 0 < mantissa)
    (h : (ofBinary mantissa exponent).Holds q) :
    mantissa - gapBelow mantissa exponent ≤ q / 2 ^ exponent
      ∧ q / 2 ^ exponent ≤ mantissa + 1 / 2
      ∧ (mantissa % 2 = 0 ∨ ((mantissa : ℚ) - 1 / 2 < q / 2 ^ exponent
          ∧ q / 2 ^ exponent < mantissa + 1 / 2)) := by
  rw [holds_ofBinary_iff exponent q hpos] at h
  by_cases heven : mantissa % 2 = 0
  · rw [if_pos heven] at h
    exact ⟨h.1, h.2, Or.inl heven⟩
  · rw [if_neg heven] at h
    have hgap := gapBelow_of_odd exponent heven
    exact ⟨h.1.le, h.2.le, Or.inr ⟨hgap ▸ h.1, h.2⟩⟩

/-- What is nearer to a number than its neighbours is in its interval. -/
theorem holds_of_near {mantissa : ℕ} {exponent : ℤ} {q : ℚ} (hpos : 0 < mantissa)
    (h : |q / 2 ^ exponent - mantissa| < gapBelow mantissa exponent) :
    (ofBinary mantissa exponent).Holds q := by
  rw [holds_ofBinary_iff exponent q hpos]
  obtain ⟨hlow, hhigh⟩ := abs_lt.mp h
  have hgap := gapBelow_le mantissa exponent
  split
  · exact ⟨by linarith, by linarith⟩
  · exact ⟨by linarith, by linarith⟩

/-- Only positive numbers are in the interval of a positive number. -/
theorem pos_of_holds {mantissa : ℕ} {exponent : ℤ} {q : ℚ} (hpos : 0 < mantissa)
    (h : (ofBinary mantissa exponent).Holds q) : 0 < q := by
  have hlow := (bounds_of_holds hpos h).1
  have hgap := gapBelow_le mantissa exponent
  have hone : (1 : ℚ) ≤ mantissa := by exact_mod_cast hpos
  have hunit : (0 : ℚ) < 2 ^ exponent := by positivity
  have : 0 < q / 2 ^ exponent := by linarith
  exact (div_pos_iff_of_pos_right hunit).mp this

end ReadingInterval

/-! ### Reading what is in an interval -/

section Nearest

variable {num den : ℕ} (hnum : 0 < num) (hden : 0 < den)
include hnum hden

/-- The leading digit of a quotient is below that of a power above it. -/
theorem binaryExponent_lt {b : ℤ} (h : (num : ℚ) / den < 2 ^ b) :
    binaryExponent num den < b :=
  (zpow_lt_zpow_iff_right₀ one_lt_two).mp
    (lt_of_le_of_lt (binaryExponent_bounds hnum hden).1 h)

/-- The leading digit of a quotient is not below that of a power that it reaches. -/
theorem le_binaryExponent {b : ℤ} (h : (2 : ℚ) ^ b ≤ (num : ℚ) / den) :
    b ≤ binaryExponent num den :=
  Int.lt_add_one_iff.mp ((zpow_lt_zpow_iff_right₀ one_lt_two).mp
    (lt_of_le_of_lt h (binaryExponent_bounds hnum hden).2))

/-- A quotient that is rounded to `n` in its last place. -/
private theorem nearestWord_eq_of_place (n : ℕ) (place : ℤ)
    (hplace : max (binaryExponent num den - 52) (-1074) = place)
    (hlow : (n : ℚ) - 1 / 2 ≤ (num : ℚ) / den / 2 ^ place)
    (hhigh : (num : ℚ) / den / 2 ^ place ≤ n + 1 / 2)
    (htie : n % 2 = 0 ∨ ((n : ℚ) - 1 / 2 < (num : ℚ) / den / 2 ^ place
      ∧ (num : ℚ) / den / 2 ^ place < n + 1 / 2))
    (hlt : (place + 1074).toNat * 2 ^ 52 + n < infinityWord) :
    nearestWord num den = (place + 1074).toNat * 2 ^ 52 + n := by
  rw [← scaled_toRat] at hlow hhigh htie
  rw [nearestWord_of_place hnum hplace, roundHalfEven_eq_of_toRat (by positivity) hlow hhigh htie]
  exact min_eq_left hlt.le

/-- Below a power of two the numbers are twice as dense, so a quotient there is rounded
at one more place. -/
private theorem nearestWord_eq_of_below {e : ℤ} (he : -1074 < e) (hle : e ≤ 971)
    (hlow : (2 : ℚ) ^ 52 - 1 / 4 ≤ (num : ℚ) / den / 2 ^ e)
    (hbelow : (num : ℚ) / den / 2 ^ e < 2 ^ 52) :
    nearestWord num den = magnitudeWord (2 ^ 52) e := by
  have hunit : (0 : ℚ) < 2 ^ e := by positivity
  have hbottom : 51 + e ≤ binaryExponent num den := by
    apply le_binaryExponent hnum hden
    rw [zpow_add₀ two_ne_zero, ← le_div_iff₀ hunit]
    refine le_trans ?_ hlow
    norm_num
  have htop : binaryExponent num den < 52 + e := by
    apply binaryExponent_lt hnum hden
    rw [zpow_add₀ two_ne_zero, ← div_lt_iff₀ hunit]
    exact_mod_cast hbelow
  have hscale : (num : ℚ) / den / 2 ^ (e - 1) = 2 * ((num : ℚ) / den / 2 ^ e) := by
    rw [zpow_sub_one₀ two_ne_zero]
    field_simp
  rw [nearestWord_eq_of_place hnum hden (2 ^ 53) (e - 1) (by omega)
    (by rw [hscale]; push_cast; linarith) (by rw [hscale]; push_cast; linarith)
    (Or.inl (by decide)) (by rw [infinityWord_eq]; omega)]
  unfold magnitudeWord
  omega

/-- **What is in the interval of a number is read as that number.** -/
theorem nearestWord_eq {m : ℕ} {e : ℤ} (hcanonical : IsCanonical m e) (hpos : 0 < m)
    (h : (ReadingInterval.ofBinary m e).Holds ((num : ℚ) / den)) :
    nearestWord num den = magnitudeWord m e := by
  obtain ⟨hlow, hhigh, htie⟩ := ReadingInterval.bounds_of_holds hpos h
  have hgap := ReadingInterval.gapBelow_le m e
  obtain ⟨hmlt, hle, hge, hnormal⟩ := hcanonical
  have hunit : (0 : ℚ) < 2 ^ e := by positivity
  have hmq : (m : ℚ) + 1 / 2 < 2 ^ 53 := by
    have : (m : ℚ) + 1 ≤ 2 ^ 53 := by exact_mod_cast hmlt
    linarith
  -- the leading digit of the quotient is not above the one of the number
  have htop : binaryExponent num den < 53 + e := by
    apply binaryExponent_lt hnum hden
    rw [zpow_add₀ two_ne_zero, ← div_lt_iff₀ hunit]
    exact lt_of_le_of_lt hhigh (by exact_mod_cast hmq)
  by_cases hbinade : (2 : ℚ) ^ 52 ≤ (num : ℚ) / den / 2 ^ e ∨ e = -1074
  · -- the last places of the quotient and of the number are the same
    have hplace : max (binaryExponent num den - 52) (-1074) = e := by
      rcases hbinade with hbinade | rfl
      · have : 52 + e ≤ binaryExponent num den := by
          apply le_binaryExponent hnum hden
          rw [zpow_add₀ two_ne_zero, ← le_div_iff₀ hunit]
          exact_mod_cast hbinade
        omega
      · omega
    refine nearestWord_eq_of_place hnum hden m e hplace (by linarith) hhigh htie ?_
    rw [infinityWord_eq]
    omega
  · -- the number is a power of two, and the quotient lies below it
    obtain ⟨hbelow, hnot⟩ := not_or.mp hbinade
    rw [not_le] at hbelow
    have hm : m = 2 ^ 52 := by
      have hmle : m < 2 ^ 52 + 1 := by
        have : (m : ℚ) < 2 ^ 52 + 1 := by linarith
        exact_mod_cast this
      omega
    subst hm
    have hnarrow : ReadingInterval.gapBelow (2 ^ 52) e = 1 / 4 := by
      simp [ReadingInterval.gapBelow, narrowBelow, hnot]
    rw [hnarrow] at hlow
    push_cast at hlow
    exact nearestWord_eq_of_below hnum hden (by omega) (by omega) hlow hbelow

end Nearest

/-! ### Finding a decimal in an interval -/

/-- Only decimals of the interval are taken. -/
private theorem contains_of_nearerNeighbour {tie : Decimal.Tie} {i : ReadingInterval}
    {num den : ℕ} {exponent : ℤ} {d : Decimal}
    (h : nearerNeighbour tie i num den exponent = some d) : i.contains d = true := by
  revert h
  unfold nearerNeighbour
  dsimp only
  cases hlow : i.contains ⟨num / den, exponent⟩ <;>
    cases hhigh : i.contains ⟨num / den + 1, exponent⟩ <;> grind

/-- One of the neighbours is taken if one of them is in the interval. -/
private theorem nearerNeighbour_ne_none {tie : Decimal.Tie} {i : ReadingInterval}
    {num den : ℕ} {exponent : ℤ}
    (h : i.contains ⟨num / den, exponent⟩ = true ∨ i.contains ⟨num / den + 1, exponent⟩ = true) :
    nearerNeighbour tie i num den exponent ≠ none := by
  revert h
  unfold nearerNeighbour
  dsimp only
  cases hlow : i.contains ⟨num / den, exponent⟩ <;>
    cases hhigh : i.contains ⟨num / den + 1, exponent⟩ <;> grind

theorem Decimal.toRat_normalize (d : Decimal) : d.normalize.toRat = d.toRat := by
  fun_induction normalize d with
  | case1 d h ih =>
    have hten : d.coefficient = d.coefficient / 10 * 10 := by omega
    rw [ih]
    unfold toRat
    rw [zpow_add_one₀ (by norm_num)]
    nth_rewrite 2 [hten]
    push_cast
    ring
  | case2 d h => rfl

/-- One of the two neighbours of a quotient is at most half a unit away. -/
private theorem near_quotient {num den : ℕ} (hden : 0 < den) :
    |((num / den : ℕ) : ℚ) - num / den| ≤ 1 / 2
      ∨ |((num / den + 1 : ℕ) : ℚ) - num / den| ≤ 1 / 2 := by
  have hdenq : (0 : ℚ) < den := by exact_mod_cast hden
  have hfloor : ((num / den : ℕ) : ℚ) ≤ (num : ℚ) / den := Nat.cast_div_le
  have hceil : (num : ℚ) / den < (num / den : ℕ) + 1 := by
    rw [div_lt_iff₀ hdenq]
    exact_mod_cast Nat.lt_mul_of_div_lt (Nat.lt_succ_self _) hden
  rcases le_total ((num : ℚ) / den) ((num / den : ℕ) + 1 / 2) with hhalf | hhalf
  · exact Or.inl (abs_le.mpr ⟨by linarith, by linarith⟩)
  · refine Or.inr (abs_le.mpr ⟨?_, ?_⟩)
    · push_cast
      linarith
    · push_cast
      linarith

/-- **On a grid of seventeen digits, what is at most half a unit away from a number** is
nearer to it than the ends of its interval. -/
theorem near_of_grid {m : ℕ} {e leading : ℤ} {q : ℚ} (hm : m < 2 ^ 53)
    (hleading : (10 : ℚ) ^ leading ≤ m * 2 ^ e)
    (hq : |q - m * 2 ^ e| ≤ 10 ^ (leading - 16) / 2) :
    |q / 2 ^ e - m| < ReadingInterval.gapBelow m e := by
  have hplace : (0 : ℚ) < 2 ^ e := by positivity
  have hmq : (m : ℚ) < 2 ^ 53 := by exact_mod_cast hm
  have hspacing : (10 : ℚ) ^ (leading - 16) * 10 ^ 16 ≤ m * 2 ^ e := by
    rw [← zpow_natCast, ← zpow_add₀ (by norm_num)]
    simpa using hleading
  -- half the spacing of the grid is below the distance to the end of the interval
  have hnear : (10 : ℚ) ^ (leading - 16) / 2 / 2 ^ e < ReadingInterval.gapBelow m e := by
    rw [div_lt_iff₀ hplace]
    unfold ReadingInterval.gapBelow
    split
    · rename_i hnarrow
      simp only [narrowBelow, Bool.and_eq_true, beq_iff_eq, Nat.pow_eq] at hnarrow
      rw [hnarrow.1] at hspacing
      push_cast at hspacing
      linarith
    · have := (mul_lt_mul_iff_left₀ hplace).mpr hmq
      linarith
  have hdistance : q / 2 ^ e - m = (q - m * 2 ^ e) / 2 ^ e := by
    rw [sub_div, mul_div_cancel_right₀ _ hplace.ne']
  rw [hdistance, abs_div, abs_of_pos hplace]
  exact lt_of_le_of_lt (div_le_div_of_nonneg_right hq hplace.le) hnear

/-- On a grid of seventeen digits, a decimal that is at most half a unit away from a
number is in its interval. -/
private theorem holds_of_near_grid {m n : ℕ} {e leading : ℤ} {q : ℚ} (hm : m < 2 ^ 53)
    (hpos : 0 < m) (hleading : (10 : ℚ) ^ leading ≤ m * 2 ^ e)
    (hq : (m * 2 ^ e : ℚ) = q * 10 ^ (leading - 16)) (hn : |(n : ℚ) - q| ≤ 1 / 2) :
    (ReadingInterval.ofBinary m e).Holds (Decimal.toRat ⟨n, leading - 16⟩) := by
  have hgrid : (0 : ℚ) < 10 ^ (leading - 16) := by positivity
  refine ReadingInterval.holds_of_near hpos (near_of_grid hm hleading ?_)
  rw [hq]
  unfold Decimal.toRat
  rw [← sub_mul, abs_mul, abs_of_pos hgrid]
  calc |(n : ℚ) - q| * 10 ^ (leading - 16)
      ≤ 1 / 2 * 10 ^ (leading - 16) := mul_le_mul_of_nonneg_right hn hgrid.le
    _ = 10 ^ (leading - 16) / 2 := by ring

/-- On a grid of seventeen digits there is a decimal in the interval of every
number: one of the two neighbours of the number. -/
private theorem shortestOfCount_ne_none {m : ℕ} {e : ℤ} (tie : Decimal.Tie) (hm : m < 2 ^ 53)
    (hpos : 0 < m) : shortestOfCount tie m e 17 ≠ none := by
  obtain ⟨hleading, -⟩ := decimalExponent_bounds hpos e
  unfold shortestOfCount
  dsimp only
  generalize decimalExponent m e = leading at hleading
  have hunit : leading - (((17 : ℕ) : ℤ) - 1) = leading - 16 := by norm_num
  rw [hunit]
  have hratio := scaledRatio_toRat m e (-(leading - 16))
  have hden := scaledRatio_den_pos m e (-(leading - 16))
  generalize scaledRatio m e (-(leading - 16)) = ratio at hratio hden
  have hvalue : (m * 2 ^ e : ℚ) = ratio.1 / ratio.2 * 10 ^ (leading - 16) := by
    rw [hratio, zpow_neg]
    field_simp
  have hcontains : ∀ n : ℕ, |(n : ℚ) - ratio.1 / ratio.2| ≤ 1 / 2 →
      (ReadingInterval.ofBinary m e).contains ⟨n, leading - 16⟩ = true := by
    intro n hn
    rw [ReadingInterval.contains_iff]
    exact holds_of_near_grid hm hpos hleading hvalue hn
  apply nearerNeighbour_ne_none
  rcases near_quotient hden with hfloor | hceil
  · exact Or.inl (hcontains _ hfloor)
  · exact Or.inr (hcontains _ hceil)

/-- **The shortest decimal is in the interval.** -/
theorem shortestDecimal_holds {m : ℕ} {e : ℤ} (tie : Decimal.Tie) (hm : m < 2 ^ 53)
    (hpos : 0 < m) :
    (ReadingInterval.ofBinary m e).Holds (shortestDecimal tie m e).toRat := by
  have hsome : ((List.range' 1 17).findSome? (shortestOfCount tie m e)).isSome = true := by
    rw [List.findSome?_isSome_iff]
    exact ⟨17, by decide, Option.isSome_iff_ne_none.mpr (shortestOfCount_ne_none tie hm hpos)⟩
  obtain ⟨d, hd⟩ := Option.isSome_iff_exists.mp hsome
  obtain ⟨count, -, hcount⟩ := List.exists_of_findSome?_eq_some hd
  unfold shortestDecimal
  dsimp only
  rw [hd, Option.getD_some, Decimal.toRat_normalize, ← ReadingInterval.contains_iff]
  exact contains_of_nearerNeighbour hcount

/-- The shortest decimal of a positive number is positive. -/
theorem coefficient_shortestDecimal_pos {m : ℕ} {e : ℤ} (tie : Decimal.Tie) (hm : m < 2 ^ 53)
    (hpos : 0 < m) : 0 < (shortestDecimal tie m e).coefficient := by
  have h := ReadingInterval.pos_of_holds hpos (shortestDecimal_holds (e := e) tie hm hpos)
  unfold Decimal.toRat at h
  rcases Nat.eq_zero_or_pos (shortestDecimal tie m e).coefficient with hzero | hpositive
  · rw [hzero] at h
    simp at h
  · exact hpositive

/-- **A decimal in the interval of a number is read as that number.** -/
theorem nearestWord_of_holds {m : ℕ} {e : ℤ} (hcanonical : IsCanonical m e) (hpos : 0 < m)
    {d : Decimal} (hholds : (ReadingInterval.ofBinary m e).Holds d.toRat) :
    nearestWord d.ratio.1 d.ratio.2 = magnitudeWord m e := by
  rw [← d.ratio_toRat] at hholds
  have hquotient := ReadingInterval.pos_of_holds hpos hholds
  refine nearestWord_eq ?_ d.ratio_den_pos hcanonical hpos hholds
  rcases Nat.eq_zero_or_pos d.ratio.1 with hzero | hpositive
  · rw [hzero] at hquotient
    simp at hquotient
  · exact hpositive

/-- **The shortest decimal of a number is read as that number.** -/
theorem nearestWord_shortestDecimal {m : ℕ} {e : ℤ} (tie : Decimal.Tie)
    (hcanonical : IsCanonical m e) (hpos : 0 < m) {d : Decimal}
    (hd : d.toRat = (shortestDecimal tie m e).toRat) :
    nearestWord d.ratio.1 d.ratio.2 = magnitudeWord m e := by
  have hholds := shortestDecimal_holds (e := e) tie hcanonical.mantissa_lt hpos
  rw [← hd] at hholds
  exact nearestWord_of_holds hcanonical hpos hholds

end BlockExtent

