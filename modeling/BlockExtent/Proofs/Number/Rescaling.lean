import BlockExtent.Proofs.Number.Arithmetic

/-!
# Multiplying and dividing by a natural number

A number that is multiplied by a natural number and then divided by it is rounded twice.  The
product loses less than half of a unit of its own last place, which is less than the natural
number, counted in units of the last place of the number itself.  So the quotient is rounded
to the mantissa that was there or to one next to it, and which of them is settled by what the
product has lost.

## Main definitions

* `Binary64.keptProduct` — what is kept of a product.
* `Binary64.IsUndone` — the error of a product is undone by dividing again.
* `Binary64.ComesBack` — what becomes of a number.

## Main results

* `Binary64.keptProduct_bounds` — what is lost of it.
* `Binary64.exists_ofFloat_mul` — the product as a number.
* `Binary64.toNat_toBits_mul_div` — the word of the number that comes back.
* `Binary64.HasPixelMagnitude.comesBack` — **the number itself or a neighbour of it.**
-/

namespace BlockExtent.Binary64

/-! ### Units in the last place -/

/-- Units that have all of their bits are those of a number, be it with one digit more. -/
theorem exists_isCanonical_units {units : ℕ} {place : ℤ} (hlow : 2 ^ 52 ≤ units)
    (hhigh : units ≤ 2 ^ 53) (hplace : -1074 ≤ place) (hplace' : place < 971) :
    ∃ m e, IsCanonical m e ∧ 0 < m ∧ (m * 2 ^ e : ℚ) = units * 2 ^ place
      ∧ magnitudeWord m e = (place + 1074).toNat * 2 ^ 52 + units := by
  by_cases hlt : units < 2 ^ 53
  · exact ⟨units, place, ⟨hlt, hplace, by omega, .inr hlow⟩, by omega, rfl, rfl⟩
  · obtain rfl : units = 2 ^ 53 := by omega
    refine ⟨2 ^ 52, place + 1, ⟨by decide, by omega, by omega, .inr le_rfl⟩, by decide, ?_, ?_⟩
    · rw [zpow_add_one₀ two_ne_zero]
      push_cast
      ring
    · unfold magnitudeWord
      omega

/-- A positive rational number is a quotient of natural numbers. -/
theorem exists_quotient {q : ℚ} (hq : 0 < q) : ∃ n d : ℕ, 0 < n ∧ 0 < d ∧ (n : ℚ) / d = q := by
  have hnum : 0 < q.num := Rat.num_pos.mpr hq
  refine ⟨q.num.toNat, q.den, by omega, q.den_pos, ?_⟩
  have hcast : ((q.num.toNat : ℕ) : ℚ) = q.num := by
    exact_mod_cast Int.toNat_of_nonneg hnum.le
  rw [hcast, Rat.num_div_den]

/-- The word of a finite number. -/
theorem toNat_toBits_of_ofFloat {x : Float} {negative : Bool} {m : ℕ} {e : ℤ}
    (h : ofFloat x = .finite negative m e) :
    x.toBits.toNat = signWord negative + magnitudeWord m e :=
  (eq_word_of_ofWord x.toBits.toNat_lt h).2

/-! ### Products with a natural number -/

/-- The last place of a product of a mantissa and a natural number. -/
def productPlace (m n : ℕ) : ℕ := (m * n).log2 - 52

/-- A product of a mantissa and a natural number, as far as a number has bits for it. -/
def keptProduct (m n : ℕ) : ℕ :=
  roundHalfEven (m * n) (2 ^ productPlace m n) * 2 ^ productPlace m n

section Product

variable {m n : ℕ}

/-- A product that needs no more bits is kept as a whole. -/
theorem keptProduct_of_dvd (h : 2 ^ productPlace m n ∣ m * n) : keptProduct m n = m * n := by
  obtain ⟨units, hunits⟩ := h
  have hpower : 0 < 2 ^ productPlace m n := by positivity
  have hrounded : roundHalfEven (m * n) (2 ^ productPlace m n) = units := by
    rw [hunits, Nat.mul_comm]
    exact le_antisymm (roundHalfEven_le hpower le_rfl) (le_roundHalfEven hpower le_rfl)
  rw [keptProduct, hrounded, hunits, Nat.mul_comm]

variable (hm : 2 ^ 52 ≤ m) (hm' : m < 2 ^ 53) (hn : 0 < n)
include hm hn

/-- The product has 53 bits in front of its last place. -/
theorem productPlace_bounds :
    2 ^ 52 * 2 ^ productPlace m n ≤ m * n ∧ m * n < 2 ^ 53 * 2 ^ productPlace m n := by
  have hpos : m * n ≠ 0 := by positivity
  have hlog : 52 ≤ (m * n).log2 :=
    (Nat.le_log2 hpos).mpr (hm.trans (Nat.le_mul_of_pos_right m hn))
  unfold productPlace
  rw [← pow_add, ← pow_add]
  constructor
  · exact (Nat.pow_le_pow_right (by decide) (by omega)).trans (Nat.log2_self_le hpos)
  · exact Nat.lt_log2_self.trans_le (Nat.pow_le_pow_right (by decide) (by omega))

/-- Rounded to its last place, the product has 53 bits or is carried to one more. -/
theorem roundHalfEven_product_bounds :
    2 ^ 52 ≤ roundHalfEven (m * n) (2 ^ productPlace m n)
      ∧ roundHalfEven (m * n) (2 ^ productPlace m n) ≤ 2 ^ 53 := by
  obtain ⟨hlow, hhigh⟩ := productPlace_bounds hm hn
  exact ⟨le_roundHalfEven (by positivity) hlow, roundHalfEven_le (by positivity) hhigh.le⟩

include hm'

/-- The last place of the product is less than twice the natural number. -/
theorem unit_lt_twice : 2 ^ productPlace m n < 2 * n := by
  obtain ⟨hlow, -⟩ := productPlace_bounds hm hn
  have hupper : m * n < 2 ^ 53 * n := Nat.mul_lt_mul_of_pos_right hm' hn
  omega

/-- What the product loses is less than the natural number. -/
theorem keptProduct_bounds :
    2 * (m * n) < 2 * keptProduct m n + 2 * n ∧ 2 * keptProduct m n < 2 * (m * n) + 2 * n := by
  obtain ⟨hlow, hhigh, -⟩ := roundHalfEven_bounds (m * n) (Nat.two_pow_pos (productPlace m n))
  have hunit := unit_lt_twice hm hm' hn
  unfold keptProduct
  constructor <;> nlinarith

/-- Divided by the natural number, what is kept has as many bits as the mantissa. -/
theorem keptProduct_div_bounds (hn' : n < 2 ^ 32) :
    2 ^ 52 * n ≤ keptProduct m n ∧ keptProduct m n < 2 ^ 53 * n := by
  obtain ⟨hlow, hhigh⟩ := keptProduct_bounds hm hm' hn
  have hupper : (m + 1) * n ≤ 2 ^ 53 * n := Nat.mul_le_mul_right n hm'
  refine ⟨?_, by nlinarith⟩
  by_cases hpower : m = 2 ^ 52
  · -- the last place of the product is one of the mantissa, and nothing is lost
    subst hpower
    have hlt : 2 ^ productPlace (2 ^ 52) n < 2 ^ 33 :=
      (unit_lt_twice hm hm' hn).trans (by omega)
    have hplace := (Nat.pow_lt_pow_iff_right (by decide)).mp hlt
    have hdvd : 2 ^ productPlace (2 ^ 52) n ∣ 2 ^ 52 := Nat.pow_dvd_pow 2 (by omega)
    rw [keptProduct_of_dvd (hdvd.mul_right n)]
  · have hlower : (2 ^ 52 + 1) * n ≤ m * n := Nat.mul_le_mul_right n (by omega)
    nlinarith

end Product

/-! ### There and back -/

section RoundTrip

variable {x : Float} {negative : Bool} {m n : ℕ} {e : ℤ}
  (hx : ofFloat x = .finite negative m e) (hm : 2 ^ 52 ≤ m) (he : e ≤ 0) (hn : 0 < n)
  (hn' : n < 2 ^ 32)
include hx hm he hn hn'

/-- The product of a number and a natural number. -/
theorem exists_ofFloat_mul :
    ∃ m' e', ofFloat (x * Float.ofNat n) = .finite negative m' e' ∧ 0 < m'
      ∧ (m' * 2 ^ e' : ℚ) = keptProduct m n * 2 ^ e := by
  obtain ⟨hlt, hle, -, -⟩ := (eq_ofBits_of_ofFloat hx).1
  obtain ⟨k, f, hsize, hk, hvalue⟩ := ofFloat_ofNat hn (hn'.trans (by decide))
  obtain ⟨hbottom, htop⟩ := productPlace_bounds hm hn
  have hunit := unit_lt_twice hm hlt hn
  have hplace : productPlace m n < 33 :=
    (Nat.pow_lt_pow_iff_right (by decide)).mp (hunit.trans (by omega))
  obtain ⟨a, b, ha, hb, hab⟩ := exists_quotient (q := (m * n : ℕ) * 2 ^ e) (by positivity)
  have hplaced : (a : ℚ) / b / 2 ^ (e + productPlace m n)
      = (m * n : ℕ) / (2 ^ productPlace m n : ℕ) := by
    rw [hab, zpow_add₀ two_ne_zero, zpow_natCast]
    push_cast
    field_simp
  have hword : nearestWord a b = (e + productPlace m n + 1074).toNat * 2 ^ 52
      + roundHalfEven (m * n) (2 ^ productPlace m n) := by
    have hpower : (0 : ℚ) < (2 ^ productPlace m n : ℕ) := by positivity
    have hunits := (roundHalfEven_product_bounds hm hn).2
    rw [nearestWord_eq_units ha hb (by omega) ?_ ?_ (by positivity) hplaced.symm, min_eq_left]
    · rw [infinityWord_eq]
      omega
    · rw [hplaced, le_div_iff₀ hpower]
      exact_mod_cast hbottom
    · rw [hplaced, div_lt_iff₀ hpower]
      exact_mod_cast htop
  obtain ⟨hlow, hhigh⟩ := roundHalfEven_product_bounds hm hn
  have hfirst : (-1074 : ℤ) ≤ e + productPlace m n := by omega
  obtain ⟨m', e', hcanonical, hm', hvalue', hmagnitude⟩ :=
    exists_isCanonical_units hlow hhigh hfirst (by omega)
  have hbits := toNat_toBits_mul hx (by omega) hsize hk ha hb (by
    rw [hab, hvalue]
    push_cast
    ring)
  refine ⟨m', e', ?_, hm', ?_⟩
  · rw [ofFloat, hbits, hword, ← hmagnitude, Bool.xor_false]
    exact ofWord_magnitudeWord negative hcanonical
  · rw [hvalue', zpow_add₀ two_ne_zero, zpow_natCast, keptProduct]
    push_cast
    ring

/-- The number that comes back has the exponent that was there, unless it is carried. -/
theorem toNat_toBits_mul_div :
    (x * Float.ofNat n / Float.ofNat n).toBits.toNat
      = signWord negative + ((e + 1074).toNat * 2 ^ 52 + roundHalfEven (keptProduct m n) n) := by
  obtain ⟨hlt, hle, -, -⟩ := (eq_ofBits_of_ofFloat hx).1
  obtain ⟨k, f, hsize, hk, hvalue⟩ := ofFloat_ofNat hn (hn'.trans (by decide))
  obtain ⟨m', e', hproduct, hm', hvalue'⟩ := exists_ofFloat_mul hx hm he hn hn'
  obtain ⟨hlow, hhigh⟩ := keptProduct_div_bounds hm hlt hn hn'
  have hkept : 0 < keptProduct m n := by
    have : 0 < 2 ^ 52 * n := by positivity
    omega
  obtain ⟨a, b, ha, hb, hab⟩ := exists_quotient (q := keptProduct m n / n * 2 ^ e) (by positivity)
  have hplaced : (a : ℚ) / b / 2 ^ e = (keptProduct m n : ℕ) / (n : ℕ) := by
    rw [hab]
    field_simp
  have hsizeq : (0 : ℚ) < n := by positivity
  have hword : nearestWord a b = (e + 1074).toNat * 2 ^ 52 + roundHalfEven (keptProduct m n) n := by
    have hunits : roundHalfEven (keptProduct m n) n ≤ 2 ^ 53 := roundHalfEven_le hn hhigh.le
    rw [nearestWord_eq_units ha hb (by omega) ?_ ?_ hn hplaced.symm, min_eq_left]
    · rw [infinityWord_eq]
      omega
    · rw [hplaced, le_div_iff₀ hsizeq]
      exact_mod_cast hlow
    · rw [hplaced, div_lt_iff₀ hsizeq]
      exact_mod_cast hhigh
  rw [toNat_toBits_div hproduct hm' hsize hk ha hb (by rw [hab, hvalue', hvalue]; ring), hword,
    Bool.xor_false]

end RoundTrip

/-! ### Whether the number comes back -/

/-- A quotient is rounded to an integer if it is no further than half a unit from it, and to
an even one if it is just that. -/
theorem roundHalfEven_eq_iff {a b n : ℕ} (hb : 0 < b) :
    roundHalfEven a b = n ↔ 2 * ((a : ℤ) - (n * b : ℕ)).natAbs < b
      ∨ 2 * ((a : ℤ) - (n * b : ℕ)).natAbs = b ∧ Even n := by
  constructor
  · rintro rfl
    obtain ⟨hlow, hhigh, htie⟩ := roundHalfEven_bounds a hb
    rw [mul_assoc] at hlow hhigh htie
    rw [Nat.even_iff]
    omega
  · intro hnear
    rw [Nat.even_iff] at hnear
    apply roundHalfEven_eq hb <;> rw [mul_assoc] <;> omega

/-- How far the product of a number and a natural number is from the exact product. -/
def productError (x : Float) (n : ℕ) : ℚ :=
  |(ofFloat (x * Float.ofNat n)).toRat - (ofFloat x).toRat * n|

/-- The error of a product is undone by dividing again: it is less than half of what the
natural number makes of the last place, or just that beside an even mantissa. -/
def IsUndone (x : Float) (n : ℕ) : Prop :=
  ∃ negative m e, ofFloat x = .finite negative m e
    ∧ (2 * productError x n < n * 2 ^ e ∨ 2 * productError x n = n * 2 ^ e ∧ Even m)

/-- What becomes of a number that is multiplied and divided by a natural number. -/
structure ComesBack (x : Float) (n : ℕ) (y : Float) : Prop where
  /-- No other number is between the two. -/
  near : |(y.toBits.toNat : ℤ) - x.toBits.toNat| ≤ 1
  /-- It is the same one just if the error of the product is undone. -/
  eq_iff : y = x ↔ IsUndone x n
  /-- It is the same one if the product is exact. -/
  eq_of_exact : productError x n = 0 → y = x
  /-- It is the same one if the natural number is a power of two. -/
  eq_of_power : ∀ i, n = 2 ^ i → y = x

/-- The magnitudes of pixels, from a billionth to a billion. -/
def HasPixelMagnitude (x : Float) : Prop :=
  (10 : ℚ) ^ (-9 : ℤ) ≤ |(ofFloat x).toRat| ∧ |(ofFloat x).toRat| ≤ 10 ^ 9

/-- A sign does not change the distance from zero. -/
theorem abs_signed (negative : Bool) {q : ℚ} (hq : 0 ≤ q) : |signed negative q| = q := by
  cases negative with
  | false => exact abs_of_nonneg hq
  | true => exact (abs_neg q).trans (abs_of_nonneg hq)

/-- A sign goes through a product. -/
theorem signed_mul (negative : Bool) (q r : ℚ) :
    signed negative q * r = signed negative (q * r) := by
  cases negative with
  | false => rfl
  | true => exact neg_mul q r

/-- A number of such a magnitude has all of its bits, and a unit that is no larger than one. -/
theorem HasPixelMagnitude.exists_ofFloat {x : Float} (h : HasPixelMagnitude x) :
    ∃ negative m e, ofFloat x = .finite negative m e ∧ 2 ^ 52 ≤ m ∧ e ≤ 0 := by
  obtain ⟨hlow, hhigh⟩ := h
  rcases hx : ofFloat x with _ | negative | ⟨negative, m, e⟩
  · rw [hx] at hlow
    change _ ≤ |(0 : ℚ)| at hlow
    norm_num at hlow
  · rw [hx] at hlow
    change _ ≤ |(0 : ℚ)| at hlow
    norm_num at hlow
  have hcanonical := (eq_ofBits_of_ofFloat hx).1
  rw [hx, toRat, abs_signed negative (by positivity)] at hlow hhigh
  have hnormal : 2 ^ 52 ≤ m := by
    refine hcanonical.normal.resolve_left fun hsubnormal => ?_
    subst hsubnormal
    have hm : (m : ℚ) ≤ 2 ^ 53 := by exact_mod_cast hcanonical.mantissa_lt.le
    have hunit : (2 : ℚ) ^ (-1074 : ℤ) ≤ 2 ^ (-83 : ℤ) :=
      zpow_le_zpow_right₀ one_le_two (by decide)
    have hsmall : (m * 2 ^ (-1074 : ℤ) : ℚ) ≤ 2 ^ 53 * 2 ^ (-83 : ℤ) :=
      mul_le_mul hm hunit (by positivity) (by positivity)
    have hbillionth : (2 ^ 53 * 2 ^ (-83 : ℤ) : ℚ) < 10 ^ (-9 : ℤ) := by norm_num
    linarith
  refine ⟨negative, m, e, rfl, hnormal, ?_⟩
  by_contra hpositive
  have hunit : (1 : ℚ) ≤ 2 ^ e := one_le_zpow₀ one_le_two (by omega)
  have hm : (2 ^ 52 : ℚ) ≤ m := by exact_mod_cast hnormal
  nlinarith

section ComesBack

variable {x : Float} {negative : Bool} {m n : ℕ} {e : ℤ}
  (hx : ofFloat x = .finite negative m e) (hm : 2 ^ 52 ≤ m) (he : e ≤ 0) (hn : 0 < n)
  (hn' : n < 2 ^ 32)
include hx hm hn

/-- The number that comes back has the same mantissa or one next to it. -/
theorem abs_roundHalfEven_keptProduct_sub_le :
    |(roundHalfEven (keptProduct m n) n : ℤ) - m| ≤ 1 := by
  obtain ⟨hlow, hhigh⟩ := keptProduct_bounds hm (eq_ofBits_of_ofFloat hx).1.mantissa_lt hn
  have hbelow : m - 1 ≤ roundHalfEven (keptProduct m n) n := by
    apply le_roundHalfEven hn
    rw [Nat.sub_mul]
    omega
  have habove : roundHalfEven (keptProduct m n) n ≤ m + 1 := by
    apply roundHalfEven_le hn
    rw [Nat.add_mul]
    omega
  rw [abs_le]
  omega

include he hn'

/-- The error of a product, in units of the last place. -/
theorem productError_eq :
    productError x n = ((keptProduct m n : ℤ) - (m * n : ℕ)).natAbs * 2 ^ e := by
  obtain ⟨m', e', hproduct, -, hvalue⟩ := exists_ofFloat_mul hx hm he hn hn'
  have hunit : (0 : ℚ) < 2 ^ e := by positivity
  rw [productError, hproduct, hx, toRat, toRat, signed_mul, abs_signed_sub, hvalue,
    mul_right_comm, ← sub_mul, abs_mul, abs_of_pos hunit, Nat.cast_natAbs]
  push_cast
  rfl

/-- Whether the error of a product is undone, by the mantissa. -/
theorem isUndone_iff : IsUndone x n ↔ roundHalfEven (keptProduct m n) n = m := by
  have hunit : (0 : ℚ) < 2 ^ e := by positivity
  have herror := productError_eq hx hm he hn hn'
  rw [roundHalfEven_eq_iff hn]
  generalize ((keptProduct m n : ℤ) - (m * n : ℕ)).natAbs = error at herror ⊢
  have hlt : 2 * productError x n < n * 2 ^ e ↔ 2 * error < n := by
    rw [herror, ← mul_assoc, mul_lt_mul_iff_left₀ hunit]
    exact_mod_cast Iff.rfl
  have heq : 2 * productError x n = n * 2 ^ e ↔ 2 * error = n := by
    rw [herror, ← mul_assoc, mul_left_inj' hunit.ne']
    exact_mod_cast Iff.rfl
  rw [← hlt, ← heq]
  constructor
  · rintro ⟨negative', m', e', hx', hundone⟩
    rw [hx] at hx'
    cases hx'
    exact hundone
  · exact fun hundone => ⟨negative, m, e, hx, hundone⟩

end ComesBack

/-- A product with a power of two needs no more bits. -/
theorem keptProduct_two_pow {m : ℕ} (hm : 2 ^ 52 ≤ m) (hm' : m < 2 ^ 53) (i : ℕ) :
    keptProduct m (2 ^ i) = m * 2 ^ i := by
  obtain ⟨hlow, -⟩ := productPlace_bounds hm (Nat.two_pow_pos i)
  have hupper : m * 2 ^ i < 2 ^ 53 * 2 ^ i := Nat.mul_lt_mul_of_pos_right hm' (Nat.two_pow_pos i)
  have hlt : 2 ^ productPlace m (2 ^ i) < 2 ^ (i + 1) := by
    rw [pow_succ]
    omega
  have hplace := (Nat.pow_lt_pow_iff_right (by decide)).mp hlt
  exact keptProduct_of_dvd ((Nat.pow_dvd_pow 2 (by omega)).mul_left m)

/-- **A number that is multiplied and divided by a natural number** comes back or becomes a
neighbour of itself. -/
theorem HasPixelMagnitude.comesBack {x : Float} (h : HasPixelMagnitude x) {n : ℕ} (hn : 0 < n)
    (hn' : n < 2 ^ 32) : ComesBack x n (x * Float.ofNat n / Float.ofNat n) := by
  obtain ⟨negative, m, e, hx, hm, he⟩ := h.exists_ofFloat
  have hlt := (eq_ofBits_of_ofFloat hx).1.mantissa_lt
  have hword := toNat_toBits_mul_div hx hm he hn hn'
  have hword' := toNat_toBits_of_ofFloat hx
  rw [magnitudeWord] at hword'
  have heq : x * Float.ofNat n / Float.ofNat n = x ↔ roundHalfEven (keptProduct m n) n = m := by
    constructor
    · intro hsame
      rw [hsame] at hword
      omega
    · intro hmantissa
      have hbits : (x * Float.ofNat n / Float.ofNat n).toBits = x.toBits :=
        UInt64.toNat_inj.mp (by omega)
      rw [← ofBits_toBits (_ / _), hbits, ofBits_toBits]
  have hundone := heq.trans (isUndone_iff hx hm he hn hn').symm
  have hexact : productError x n = 0 → IsUndone x n := fun hzero =>
    ⟨negative, m, e, hx, .inl (by rw [hzero, mul_zero]; positivity)⟩
  refine ⟨?_, hundone, fun hzero => hundone.mpr (hexact hzero), ?_⟩
  · have hnear := abs_roundHalfEven_keptProduct_sub_le hx hm hn
    rw [hword, hword']
    rw [abs_le] at hnear ⊢
    omega
  · rintro i rfl
    rw [heq, keptProduct_two_pow hm hlt]
    exact le_antisymm (roundHalfEven_le hn le_rfl) (le_roundHalfEven hn le_rfl)

end BlockExtent.Binary64
