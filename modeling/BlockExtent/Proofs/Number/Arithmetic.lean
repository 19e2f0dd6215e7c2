import BlockExtent.Proofs.Number.Spacing

/-!
# Products, quotients and conversions

The arithmetic of binary64 rounds exact results.  Rounding works on extended mantissas, which
keep of a quotient its integer part and two more bits: the one behind it, and whether anything
is left after that.  This is enough to round half to even, and shifting keeps it.  So the word
of a product, of a quotient and of a converted natural number is the nearest one.

## Main definitions

* `Binary64.Keeps` — what an extended mantissa keeps of a quotient.

## Main results

* `Binary64.Keeps.shiftRight` — shifting keeps it.
* `Binary64.toNat_pack_roundWithAccuracy` — **rounding gives the nearest number.**
* `Binary64.toNat_toBits_mul`, `Binary64.toNat_toBits_div` — products and quotients.
* `Binary64.ofFloat_ofNat` — **a natural number of 53 bits is converted exactly.**
-/

namespace BlockExtent.Binary64

open Float.Model Float.Model.UnpackedFloat

/-- An extended mantissa keeps of a quotient its integer part, the bit behind that, and
whether anything is left. -/
structure Keeps (em : ExtendedMantissa) (num den : ℕ) : Prop where
  mantissa_eq : em.mantissa = num / den
  roundBit_iff : em.roundBit = true ↔ den ≤ 2 * (num % den)
  stickyBit_iff : em.stickyBit = true ↔ 2 * num % den ≠ 0

variable {em : ExtendedMantissa} {num den : ℕ}

/-- The remainder of twice a number is settled by whether twice its remainder reaches the
divisor. -/
theorem twice_mod_cases (num : ℕ) (hden : 0 < den) :
    2 * num % den = if den ≤ 2 * (num % den) then 2 * (num % den) - den else 2 * (num % den) := by
  have hlt : num % den < den := Nat.mod_lt _ hden
  have hmod : 2 * num % den = 2 * (num % den) % den := by
    rw [Nat.mul_mod, Nat.mul_mod 2 (num % den), Nat.mod_mod]
  rw [hmod]
  split
  · rename_i hle
    rw [Nat.mod_eq_sub_mod hle, Nat.mod_eq_of_lt (by omega)]
  · exact Nat.mod_eq_of_lt (by omega)

/-- Shifted by one place, an extended mantissa keeps half of the quotient. -/
theorem Keeps.shiftRightOne (hden : 0 < den) (h : Keeps em num den) :
    Keeps em.shiftRightOne num (den * 2) := by
  have htwice := twice_mod_cases num hden
  have hsplit : num % (den * 2) = num % den + den * (num / den % 2) := Nat.mod_mul
  have hbit : num / den % 2 = 0 ∨ num / den % 2 = 1 := Nat.mod_two_eq_zero_or_one _
  have hlt : num % den < den := Nat.mod_lt _ hden
  obtain ⟨hmantissa, hround, hsticky⟩ := h
  refine ⟨?_, ?_, ?_⟩
  · change em.mantissa / 2 = _
    rw [hmantissa, Nat.div_div_eq_div_mul]
  · change (em.mantissa % 2 != 0) = true ↔ _
    rw [hmantissa, bne_iff_ne, hsplit]
    rcases hbit with hbit | hbit <;> rw [hbit] <;> omega
  · change (em.roundBit || em.stickyBit) = true ↔ _
    rw [Bool.or_eq_true, hround, hsticky, htwice, Nat.mul_comm den 2, Nat.mul_mod_mul_left]
    split <;> omega

/-- Shifted, an extended mantissa keeps the quotient by a power of two. -/
theorem Keeps.shiftRight (hden : 0 < den) (h : Keeps em num den) (k : ℕ) :
    Keeps (em >>> k) num (den * 2 ^ k) := by
  change Keeps (k.repeat ExtendedMantissa.shiftRightOne em) num (den * 2 ^ k)
  induction k with
  | zero =>
    rw [pow_zero, Nat.mul_one]
    exact h
  | succ k ih =>
    rw [pow_succ, ← Nat.mul_assoc]
    exact ih.shiftRightOne (by positivity)

/-- What is kept is enough to round half to even. -/
theorem Keeps.roundedMantissa (hden : 0 < den) (h : Keeps em num den) :
    em.roundedMantissa = roundHalfEven num den := by
  have htwice := twice_mod_cases num hden
  obtain ⟨hmantissa, hround, hsticky⟩ := h
  obtain ⟨mantissa, roundBit, stickyBit⟩ := em
  obtain rfl : mantissa = num / den := hmantissa
  dsimp only at hround hsticky
  rw [htwice] at hsticky
  unfold roundHalfEven
  cases roundBit <;> cases stickyBit <;>
    simp only [ExtendedMantissa.roundedMantissa, ExtendedMantissa.accuracy,
      Accuracy.roundToNearestEven, Bool.false_eq_true, false_iff, true_iff] at hround hsticky ⊢
  all_goals split_ifs at hsticky ⊢ <;> omega

/-- A natural number is kept as a whole. -/
theorem keeps_exact (m : ℕ) : Keeps (.ofMantissaAndAccuracy (m / 1) .exact) m 1 := by
  refine ⟨rfl, ?_, ?_⟩ <;> simp [ExtendedMantissa.ofMantissaAndAccuracy, Nat.mod_one]

/-- A quotient is kept by its integer part and the accuracy of that. -/
theorem keeps_fraction (hden : 0 < den) :
    Keeps (.ofMantissaAndAccuracy (num / den) (accuracyOfFraction (num % den) den)) num den := by
  have htwice := twice_mod_cases num hden
  unfold accuracyOfFraction
  split
  · rename_i hzero
    refine ⟨rfl, iff_of_false Bool.false_ne_true (by omega), iff_of_false Bool.false_ne_true ?_⟩
    rw [htwice, if_neg (by omega)]
    omega
  · rename_i hne
    rcases hcompare : compare (2 * (num % den)) den with _ | _ | _
    · rw [Nat.compare_eq_lt] at hcompare
      refine ⟨rfl, iff_of_false Bool.false_ne_true (by omega), iff_of_true rfl ?_⟩
      rw [htwice, if_neg (by omega)]
      omega
    · rw [Nat.compare_eq_eq] at hcompare
      refine ⟨rfl, iff_of_true rfl (by omega), iff_of_false Bool.false_ne_true ?_⟩
      rw [htwice, if_pos (by omega)]
      omega
    · rw [Nat.compare_eq_gt] at hcompare
      refine ⟨rfl, iff_of_true rfl (by omega), iff_of_true rfl ?_⟩
      rw [htwice, if_pos (by omega)]
      omega

/-! ### Rounding -/

/-- The exponent of the last place. -/
theorem targetExponent_eq (m : ℕ) (e : ℤ) :
    Format.binary64.targetExponent (totalExponent m e) = max (m.log2 + e - 52) (-1074) := by
  simp only [Format.targetExponent, totalExponent, Format.mantissaBits, Format.minExponent]
  omega

/-- A number of few bits has a small logarithm. -/
theorem log2_le_of_lt {m k : ℕ} (h : m < 2 ^ (k + 1)) : m.log2 ≤ k := by
  by_cases hm : m = 0
  · rw [hm, Nat.log2_zero]
    exact Nat.zero_le k
  · exact Nat.lt_succ_iff.mp ((Nat.log2_lt hm).mpr h)

/-- A mantissa of 53 bits stays as it is. -/
theorem shiftToTargetExponent_of_lt {m : ℕ} {e : ℤ} (hm : m < 2 ^ 53) (he : -1074 ≤ e) :
    shiftToTargetExponent Format.binary64 m e .exact = (⟨m, false, false⟩, e) := by
  have hlog : m.log2 ≤ 52 := log2_le_of_lt hm
  have hnone : (Format.binary64.targetExponent (totalExponent m e) - e).toNat = 0 := by
    rw [targetExponent_eq]
    omega
  unfold shiftToTargetExponent shiftToExponent
  dsimp only
  rw [hnone, Nat.cast_zero, add_zero]
  rfl

/-- A mantissa that rounding has carried to 54 bits loses the last of them, which is zero. -/
theorem shiftToTargetExponent_carry {e : ℤ} (he : -1074 ≤ e) :
    shiftToTargetExponent Format.binary64 (2 ^ 53) e .exact = (⟨2 ^ 52, false, false⟩, e + 1) := by
  have hone : (Format.binary64.targetExponent (totalExponent (2 ^ 53) e) - e).toNat = 1 := by
    rw [targetExponent_eq, Nat.log2_two_pow]
    omega
  unfold shiftToTargetExponent shiftToExponent
  dsimp only
  rw [hone]
  rfl

variable {e : ℤ} {acc : Accuracy}

/-- What is rounded to the last place. -/
theorem roundWithAccuracy_eq (s : Sign) (hden : 0 < den)
    (hkeeps : Keeps (.ofMantissaAndAccuracy (num / den) acc) num den) {place : ℤ}
    (hplace : max ((num / den).log2 + e - 52 : ℤ) (-1074) = place) (he : e ≤ place) {units : ℕ}
    (hunits : roundHalfEven num (den * 2 ^ (place - e).toNat) = units) (hle : units ≤ 2 ^ 53) :
    roundWithAccuracy Format.binary64 s (num / den) e acc
      = if h : units = 0 then .zero s
        else if units < 2 ^ 53 then .finite s units place (Nat.pos_of_ne_zero h)
        else .finite s (2 ^ 52) (place + 1) (by decide) := by
  have hfirst : (shiftToTargetExponent Format.binary64 (num / den) e acc).1.roundedMantissa = units
      ∧ (shiftToTargetExponent Format.binary64 (num / den) e acc).2 = place := by
    unfold shiftToTargetExponent shiftToExponent
    rw [targetExponent_eq, hplace]
    refine ⟨?_, ?_⟩
    · rw [← hunits]
      exact (hkeeps.shiftRight hden _).roundedMantissa (by positivity)
    · dsimp only
      omega
  unfold roundWithAccuracy
  rcases hshifted : shiftToTargetExponent Format.binary64 (num / den) e acc with ⟨em, e₁⟩
  rw [hshifted] at hfirst
  obtain ⟨hrounded, rfl⟩ := hfirst
  dsimp only at hrounded ⊢
  rw [hrounded]
  have hlow : -1074 ≤ e₁ := by omega
  by_cases hlt : units < 2 ^ 53
  · rw [shiftToTargetExponent_of_lt hlt hlow]
    split_ifs <;> rfl
  · obtain rfl : units = 2 ^ 53 := by omega
    rw [shiftToTargetExponent_carry hlow]
    rfl

/-! ### The words of rounded numbers -/

section Word

/-- Equal quotients are rounded alike. -/
theorem roundHalfEven_congr {a b c d : ℕ} (hb : 0 < b) (hd : 0 < d) (h : (a : ℚ) / b = c / d) :
    roundHalfEven a b = roundHalfEven c d := by
  obtain ⟨hlow, hhigh, htie⟩ := roundHalfEven_bounds_toRat c hd
  rw [← h] at hlow hhigh htie
  exact roundHalfEven_eq_of_toRat hb hlow hhigh htie

/-- Rounding does not pass an integer from below. -/
theorem roundHalfEven_le {a b n : ℕ} (hb : 0 < b) (h : a ≤ n * b) : roundHalfEven a b ≤ n := by
  obtain ⟨hlow, -, -⟩ := roundHalfEven_bounds a hb
  by_contra hlt
  have : (n + 1) * b ≤ roundHalfEven a b * b := Nat.mul_le_mul_right b (by omega)
  nlinarith

/-- Rounding does not pass an integer from above. -/
theorem le_roundHalfEven {a b n : ℕ} (hb : 0 < b) (h : n * b ≤ a) : n ≤ roundHalfEven a b := by
  obtain ⟨-, hhigh, -⟩ := roundHalfEven_bounds a hb
  by_contra hlt
  have : (roundHalfEven a b + 1) * b ≤ n * b := Nat.mul_le_mul_right b (by omega)
  nlinarith

/-- A number that is too large for its exponent is packed as an infinity. -/
theorem toNat_pack_overflow (negative : Bool) {m : ℕ} {e : ℤ} (hpos : 0 < m) (he : 971 < e) :
    (UnpackedFloat.pack Format.binary64 (.finite (signOf negative) m e hpos)).toNat
      = signWord negative + infinityWord := by
  have hbias : (e + (Format.binary64.exponentBias : ℕ)
      + (Format.binary64.mantissaBitsWithoutImplicit : ℕ)).toNat = (e + 1075).toNat := by
    change (e + ((1023 : ℕ) : ℤ) + ((52 : ℕ) : ℤ)).toNat = _
    omega
  simp only [UnpackedFloat.pack]
  rw [hbias, if_pos (by omega)]
  exact toNat_packComponents negative _ _

/-- The word of units in the last place, which may have been carried to one more digit. -/
theorem toNat_pack_units (negative : Bool) {units : ℕ} {place : ℤ} (hle : units ≤ 2 ^ 53)
    (hplace : -1074 ≤ place) (hnormal : place = -1074 ∨ 2 ^ 52 ≤ units) :
    (UnpackedFloat.pack Format.binary64
        (if h : units = 0 then .zero (signOf negative)
          else if units < 2 ^ 53 then .finite (signOf negative) units place (Nat.pos_of_ne_zero h)
          else .finite (signOf negative) (2 ^ 52) (place + 1) (by decide))).toNat
      = signWord negative + min ((place + 1074).toNat * 2 ^ 52 + units) infinityWord := by
  have hinfinity := infinityWord_eq
  split_ifs with hzero hlt
  · obtain rfl : place = -1074 := hnormal.resolve_right (by omega)
    rw [hzero]
    exact toNat_packComponents negative 0 0
  · by_cases hhigh : place ≤ 971
    · rw [toNat_pack_finite negative ⟨hlt, hplace, hhigh, hnormal⟩, magnitudeWord,
        min_eq_left (by omega)]
    · rw [toNat_pack_overflow negative _ (by omega), min_eq_right (by omega)]
  · obtain rfl : units = 2 ^ 53 := by omega
    by_cases hhigh : place + 1 ≤ 971
    · rw [toNat_pack_finite negative ⟨by decide, by omega, hhigh, .inr le_rfl⟩, magnitudeWord,
        min_eq_left (by omega)]
      omega
    · rw [toNat_pack_overflow negative _ (by omega), min_eq_right (by omega)]

/-- An integer part rounded to the place of its exponent has at most 53 bits in front of the
place, and as many unless the place is the last one of all. -/
theorem quotient_bounds (hden : 0 < den) {place : ℤ} {k : ℕ}
    (hplace : max ((num / den).log2 + e - 52 : ℤ) (-1074) = place) (hk : place = e + k) :
    num < 2 ^ 53 * (den * 2 ^ k) ∧ (place = -1074 ∨ 2 ^ 52 * (den * 2 ^ k) ≤ num) := by
  have hpower : ∀ n : ℕ, 2 ^ n * (den * 2 ^ k) = 2 ^ (n + k) * den := by
    intro n
    rw [pow_add, mul_comm den, mul_assoc]
  rw [hpower, hpower]
  constructor
  · have hbits : 2 ^ ((num / den).log2 + 1) ≤ 2 ^ (53 + k) :=
      Nat.pow_le_pow_right (by decide) (by omega)
    exact (Nat.div_lt_iff_lt_mul hden).mp (Nat.lt_log2_self.trans_le hbits)
  · by_cases hsubnormal : place = -1074
    · exact .inl hsubnormal
    · have hlog : (num / den).log2 = 52 + k := by omega
      have hne : num / den ≠ 0 := by
        intro hzero
        rw [hzero, Nat.log2_zero] at hlog
        omega
      rw [← hlog]
      exact .inr ((Nat.le_div_iff_mul_le hden).mp (Nat.log2_self_le hne))

/-- A place with 53 bits in front of it, or the last one of all, is that of the last bit. -/
theorem place_eq_of_bounds {n d a b : ℕ} {place : ℤ} (hn : 0 < n) (hd : 0 < d) (hb : 0 < b)
    (hscaled : (n : ℚ) / d / 2 ^ place = a / b) (hplace : -1074 ≤ place) (hhigh : a < 2 ^ 53 * b)
    (hlow : place = -1074 ∨ 2 ^ 52 * b ≤ a) :
    max (binaryExponent n d - 52) (-1074) = place := by
  have hunit : (0 : ℚ) < 2 ^ place := by positivity
  have hpieces : (0 : ℚ) < b := by positivity
  have htop : binaryExponent n d < 53 + place := by
    apply binaryExponent_lt hn hd
    rw [zpow_add₀ two_ne_zero, ← div_lt_iff₀ hunit, hscaled, div_lt_iff₀ hpieces]
    exact_mod_cast hhigh
  rcases hlow with hsubnormal | hlow
  · omega
  · have hbottom : 52 + place ≤ binaryExponent n d := by
      apply le_binaryExponent hn hd
      rw [zpow_add₀ two_ne_zero, ← le_div_iff₀ hunit, hscaled, le_div_iff₀ hpieces]
      exact_mod_cast hlow
    omega

/-- **Rounding gives the nearest number.** -/
theorem toNat_pack_roundWithAccuracy (negative : Bool) (hden : 0 < den)
    (hkeeps : Keeps (.ofMantissaAndAccuracy (num / den) acc) num den)
    (he : e ≤ max ((num / den).log2 + e - 52 : ℤ) (-1074)) {n d : ℕ} (hn : 0 < n) (hd : 0 < d)
    (hvalue : (n : ℚ) / d = num / den * 2 ^ e) :
    (UnpackedFloat.pack Format.binary64
        (roundWithAccuracy Format.binary64 (signOf negative) (num / den) e acc)).toNat
      = signWord negative + nearestWord n d := by
  have hden' : (0 : ℚ) < den := by positivity
  obtain ⟨place, hplace⟩ : ∃ place : ℤ, max ((num / den).log2 + e - 52 : ℤ) (-1074) = place :=
    ⟨_, rfl⟩
  rw [hplace] at he
  obtain ⟨k, hk⟩ : ∃ k : ℕ, place = e + k := ⟨(place - e).toNat, by omega⟩
  have hshift : (place - e).toNat = k := by omega
  obtain ⟨hhigh, hlow⟩ := quotient_bounds hden hplace hk
  have hscaled : (n : ℚ) / d / 2 ^ place = num / (den * 2 ^ k : ℕ) := by
    rw [hvalue, hk, zpow_add₀ two_ne_zero, zpow_natCast]
    push_cast
    field_simp
  have hexponent : max (binaryExponent n d - 52) (-1074) = place :=
    place_eq_of_bounds hn hd (by positivity) hscaled (by omega) hhigh hlow
  have hunits : roundHalfEven num (den * 2 ^ k)
      = roundHalfEven (n * 2 ^ (-place).toNat) (d * 2 ^ place.toNat) := by
    refine roundHalfEven_congr (by positivity) (by positivity) ?_
    rw [scaled_toRat, hscaled]
  have hle : roundHalfEven num (den * 2 ^ k) ≤ 2 ^ 53 :=
    roundHalfEven_le (by positivity) hhigh.le
  have hnormal : place = -1074 ∨ 2 ^ 52 ≤ roundHalfEven num (den * 2 ^ k) :=
    hlow.imp_right (le_roundHalfEven (by positivity))
  rw [roundWithAccuracy_eq (signOf negative) hden hkeeps hplace he (by rw [hshift]) hle,
    toNat_pack_units negative hle (by omega) hnormal, hunits, nearestWord_of_place hn hexponent]

end Word

/-! ### Products and quotients -/

section Operations

variable {x y : Float} {negative negative' : Bool} {m m' : ℕ} {e e' : ℤ}

/-- The sign of a product. -/
theorem signOf_mul (negative negative' : Bool) :
    signOf negative * signOf negative' = signOf (negative ^^ negative') := by
  cases negative <;> cases negative' <;> rfl

/-- The sign of a quotient. -/
theorem signOf_div (negative negative' : Bool) :
    signOf negative / signOf negative' = signOf (negative ^^ negative') := by
  cases negative <;> cases negative' <;> rfl

/-- **A product is the number nearest to the exact product.** -/
theorem toNat_toBits_mul (hx : ofFloat x = .finite negative m e) (hm : 0 < m)
    (hy : ofFloat y = .finite negative' m' e') (hm' : 0 < m') {n d : ℕ} (hn : 0 < n) (hd : 0 < d)
    (hvalue : (n : ℚ) / d = m * 2 ^ e * (m' * 2 ^ e')) :
    (x * y).toBits.toNat = signWord (negative ^^ negative') + nearestWord n d := by
  have hcanonical := (eq_ofBits_of_ofFloat hx).1
  have hcanonical' := (eq_ofBits_of_ofFloat hy).1
  have hmul : (x * y).toBits.toNat = (UnpackedFloat.pack Format.binary64
      (UnpackedFloat.mul Format.binary64 x.toModel.unpack y.toModel.unpack)).toNat := rfl
  rw [hmul, unpack_of_ofFloat hx hm, unpack_of_ofFloat hy hm', UnpackedFloat.mul, signOf_mul,
    ← Nat.div_one (m * m')]
  refine toNat_pack_roundWithAccuracy _ Nat.one_pos (keeps_exact _) ?_ hn hd ?_
  · -- one of the mantissas has all of its bits, unless both exponents are the smallest one
    rw [Nat.div_one]
    have hlow := hcanonical.le_exponent
    have hlow' := hcanonical'.le_exponent
    have hlog : ∀ {k : ℕ}, 2 ^ 52 ≤ k → k ≤ m * m' → 52 ≤ (m * m').log2 := fun hk hle =>
      (Nat.le_log2 (Nat.mul_pos hm hm').ne').mpr (hk.trans hle)
    rcases hcanonical.normal with hsubnormal | hnormal
    · rcases hcanonical'.normal with hsubnormal' | hnormal'
      · omega
      · have := hlog hnormal' (Nat.le_mul_of_pos_left m' hm)
        omega
    · have := hlog hnormal (Nat.le_mul_of_pos_right m hm')
      omega
  · rw [hvalue, zpow_add₀ two_ne_zero]
    push_cast
    ring

/-- **A quotient is the number nearest to the exact quotient.** -/
theorem toNat_toBits_div (hx : ofFloat x = .finite negative m e) (hm : 0 < m)
    (hy : ofFloat y = .finite negative' m' e') (hm' : 0 < m') {n d : ℕ} (hn : 0 < n) (hd : 0 < d)
    (hvalue : (n : ℚ) / d = m * 2 ^ e / (m' * 2 ^ e')) :
    (x / y).toBits.toNat = signWord (negative ^^ negative') + nearestWord n d := by
  have hdiv : (x / y).toBits.toNat = (UnpackedFloat.pack Format.binary64
      (UnpackedFloat.div Format.binary64 x.toModel.unpack y.toModel.unpack)).toNat := rfl
  rw [hdiv, unpack_of_ofFloat hx hm, unpack_of_ofFloat hy hm', UnpackedFloat.div, signOf_div]
  unfold divCore
  dsimp only
  -- the first mantissa is shifted so far that the quotient has all of its bits
  obtain ⟨place, hplace⟩ : ∃ place : ℤ, min (e - e')
      (Format.binary64.targetExponent (totalExponent m e - totalExponent m' e')) = place :=
    ⟨_, rfl⟩
  rw [hplace]
  obtain ⟨k, hk⟩ : ∃ k : ℕ, e - e' = place + k := ⟨(e - e' - place).toNat, by omega⟩
  have hshift : (e - e' - place).toNat = k := by omega
  rw [hshift, Nat.shiftLeft_eq]
  refine toNat_pack_roundWithAccuracy _ hm' (keeps_fraction hm') ?_ hn hd ?_
  · by_cases hsubnormal : place ≤ -1074
    · omega
    have htarget : place ≤ (m.log2 + 1 + e) - (m'.log2 + 1 + e') - 53 := by
      simp only [Format.targetExponent, totalExponent, Format.mantissaBits,
        Format.minExponent] at hplace
      omega
    have hbits : 2 ^ (52 + (m'.log2 + 1)) ≤ m * 2 ^ k :=
      calc 2 ^ (52 + (m'.log2 + 1)) ≤ 2 ^ (m.log2 + k) :=
            Nat.pow_le_pow_right (by decide) (by omega)
        _ = 2 ^ m.log2 * 2 ^ k := pow_add 2 _ _
        _ ≤ m * 2 ^ k := Nat.mul_le_mul_right _ (Nat.log2_self_le hm.ne')
    have hquotient : 2 ^ 52 ≤ m * 2 ^ k / m' := by
      rw [Nat.le_div_iff_mul_le hm']
      calc 2 ^ 52 * m' ≤ 2 ^ 52 * 2 ^ (m'.log2 + 1) := Nat.mul_le_mul_left _ Nat.lt_log2_self.le
        _ = 2 ^ (52 + (m'.log2 + 1)) := (pow_add 2 _ _).symm
        _ ≤ m * 2 ^ k := hbits
    have hlog : 52 ≤ (m * 2 ^ k / m').log2 := (Nat.le_log2 (by omega)).mpr hquotient
    omega
  · have hexponent : (2 : ℚ) ^ e = 2 ^ place * 2 ^ k * 2 ^ e' := by
      rw [← zpow_natCast, ← zpow_add₀ two_ne_zero, ← zpow_add₀ two_ne_zero]
      congr 1
      omega
    have hdivisor : (m' : ℚ) ≠ 0 := by positivity
    rw [hvalue, hexponent]
    push_cast
    field_simp

end Operations

/-! ### Natural numbers -/

section Naturals

variable {m n d : ℕ} {e : ℤ}

/-- The nearest number to a quotient, by the units of its last place. -/
theorem nearestWord_eq_units (hn : 0 < n) (hd : 0 < d) {place : ℤ} (hplace : -1074 ≤ place)
    (hlow : (2 : ℚ) ^ 52 ≤ (n : ℚ) / d / 2 ^ place) (hhigh : (n : ℚ) / d / 2 ^ place < 2 ^ 53)
    {a b : ℕ} (hb : 0 < b) (hvalue : (a : ℚ) / b = (n : ℚ) / d / 2 ^ place) :
    nearestWord n d = min ((place + 1074).toNat * 2 ^ 52 + roundHalfEven a b) infinityWord := by
  have hunit : (0 : ℚ) < 2 ^ place := by positivity
  have htop : binaryExponent n d < 53 + place := by
    apply binaryExponent_lt hn hd
    rw [zpow_add₀ two_ne_zero, ← div_lt_iff₀ hunit]
    exact_mod_cast hhigh
  have hbottom : 52 + place ≤ binaryExponent n d := by
    apply le_binaryExponent hn hd
    rw [zpow_add₀ two_ne_zero, ← le_div_iff₀ hunit]
    exact_mod_cast hlow
  have hexponent : max (binaryExponent n d - 52) (-1074) = place := by omega
  have hunits := roundHalfEven_congr (by positivity) hb
    ((scaled_toRat n d place).trans hvalue.symm)
  rw [nearestWord_of_place hn hexponent, hunits]

/-- A number is the nearest one to itself. -/
theorem nearestWord_of_value_eq (h : IsCanonical m e) (hm : 0 < m) (hn : 0 < n) (hd : 0 < d)
    (hvalue : (n : ℚ) / d = m * 2 ^ e) : nearestWord n d = magnitudeWord m e := by
  refine nearestWord_eq hn hd h hm (ReadingInterval.holds_of_near hm ?_)
  rw [hvalue, mul_div_cancel_right₀ _ (by positivity), sub_self, abs_zero]
  unfold ReadingInterval.gapBelow
  split <;> norm_num

/-- A natural number of 53 bits has the mantissa and the exponent of a number. -/
theorem exists_isCanonical_natCast (hn : 0 < n) (hlt : n < 2 ^ 53) :
    ∃ m e, IsCanonical m e ∧ 0 < m ∧ (m * 2 ^ e : ℚ) = n := by
  have hlog : n.log2 ≤ 52 := log2_le_of_lt hlt
  have hpower : n.log2 + (52 - n.log2) = 52 := by omega
  have hbits : 2 ^ 52 ≤ n * 2 ^ (52 - n.log2) ∧ n * 2 ^ (52 - n.log2) < 2 ^ 53 := by
    constructor
    · calc 2 ^ 52 = 2 ^ n.log2 * 2 ^ (52 - n.log2) := by rw [← pow_add, hpower]
        _ ≤ n * 2 ^ (52 - n.log2) := Nat.mul_le_mul_right _ (Nat.log2_self_le hn.ne')
    · calc n * 2 ^ (52 - n.log2) < 2 ^ (n.log2 + 1) * 2 ^ (52 - n.log2) :=
            Nat.mul_lt_mul_of_pos_right Nat.lt_log2_self (Nat.two_pow_pos _)
        _ = 2 ^ 53 := by rw [← pow_add, Nat.add_right_comm, hpower]
  refine ⟨n * 2 ^ (52 - n.log2), -((52 - n.log2 : ℕ) : ℤ),
    ⟨hbits.2, by omega, by omega, .inr hbits.1⟩, by positivity, ?_⟩
  rw [zpow_neg, zpow_natCast]
  push_cast
  field_simp

/-- A word is converted to the number nearest to it. -/
theorem toNat_toBits_toFloat (word : UInt64) (hpos : 0 < word.toNat) :
    word.toFloat.toBits.toNat = nearestWord word.toNat 1 := by
  have hconvert : word.toFloat.toBits.toNat = (UnpackedFloat.pack Format.binary64
      (UnpackedFloat.normalize Format.binary64 (word.toNat : ℤ) 0 .positive)).toNat := rfl
  generalize word.toNat = n at hpos hconvert
  have hpositive : compare (n : ℤ) 0 = .gt := Int.compare_eq_gt.mpr (by omega)
  rw [hconvert, UnpackedFloat.normalize, hpositive]
  dsimp only
  rw [Int.toNat_natCast, UnpackedFloat.round]
  unfold decreaseExponent
  dsimp only
  rw [targetExponent_eq]
  obtain ⟨k, hk⟩ : ∃ k : ℕ, (0 - max ((n.log2 : ℤ) + 0 - 52) (-1074)).toNat = k := ⟨_, rfl⟩
  rw [hk, Nat.shiftLeft_eq, ← Nat.div_one (n * 2 ^ k)]
  refine (toNat_pack_roundWithAccuracy false Nat.one_pos (keeps_exact (n * 2 ^ k)) ?_ hpos
    Nat.one_pos ?_).trans (Nat.zero_add _)
  · have hbits : 2 ^ (n.log2 + k) ≤ n * 2 ^ k := by
      rw [pow_add]
      exact Nat.mul_le_mul_right _ (Nat.log2_self_le hpos.ne')
    have hlog : n.log2 + k ≤ (n * 2 ^ k).log2 := (Nat.le_log2 (by positivity)).mpr hbits
    rw [Nat.div_one]
    omega
  · rw [zero_sub, zpow_neg, zpow_natCast]
    push_cast
    field_simp

/-- **A natural number of 53 bits is converted exactly.** -/
theorem ofFloat_ofNat (hn : 0 < n) (hlt : n < 2 ^ 53) :
    ∃ m e, ofFloat (Float.ofNat n) = .finite false m e ∧ 0 < m ∧ (m * 2 ^ e : ℚ) = n := by
  obtain ⟨m, e, hcanonical, hm, hvalue⟩ := exists_isCanonical_natCast hn hlt
  have hquotient : ((n : ℕ) : ℚ) / (1 : ℕ) = m * 2 ^ e := by
    rw [hvalue, Nat.cast_one, div_one]
  have hword : nearestWord n 1 = magnitudeWord m e :=
    nearestWord_of_value_eq hcanonical hm hn Nat.one_pos hquotient
  have hsize : n.toUInt64.toNat = n := by
    rw [Nat.toUInt64_eq]
    exact UInt64.toNat_ofNat_of_lt (hlt.trans (by decide))
  have hconverted : ofFloat n.toUInt64.toFloat = .finite false m e := by
    have hbits := toNat_toBits_toFloat n.toUInt64 (by omega)
    rw [hsize, hword] at hbits
    rw [ofFloat, hbits, ← ofWord_magnitudeWord false hcanonical, signWord,
      if_neg Bool.false_ne_true, Nat.zero_add]
  have hone : ofFloat (Float.ofBits 0x3FF0000000000000) = .finite false (2 ^ 52) (-52) := by
    decide +kernel
  have hproduct := toNat_toBits_mul hconverted hm hone (by positivity) hn Nat.one_pos
    (by rw [hquotient]; norm_num)
  have hofNat : Float.ofNat n = n.toUInt64.toFloat * Float.ofBits 0x3FF0000000000000 := by
    change Float.ofScientific n false 0 = _
    unfold Float.ofScientific
    rw [dif_pos ⟨hlt, Nat.zero_le 22⟩]
    rfl
  refine ⟨m, e, ?_, hm, hvalue⟩
  rw [hofNat, ofFloat, hproduct, hword]
  exact ofWord_magnitudeWord false hcanonical

/-- A word of 53 bits is converted like its number. -/
theorem toFloat_ofNat (hlt : n < 2 ^ 53) : (UInt64.ofNat n).toFloat = Float.ofNat n := by
  rcases Nat.eq_zero_or_pos n with rfl | hn
  · decide +kernel
  obtain ⟨m, e, hofNat, hm, hvalue⟩ := ofFloat_ofNat hn hlt
  obtain ⟨hcanonical, hofBits⟩ := eq_ofBits_of_ofFloat hofNat
  have hsize : (UInt64.ofNat n).toNat = n := UInt64.toNat_ofNat_of_lt (hlt.trans (by decide))
  have hword : (UInt64.ofNat n).toFloat.toBits.toNat = magnitudeWord m e := by
    rw [toNat_toBits_toFloat _ (by omega), hsize]
    exact nearestWord_of_value_eq hcanonical hm hn Nat.one_pos (by
      rw [hvalue, Nat.cast_one, div_one])
  have hword' : (Float.ofNat n).toBits.toNat = magnitudeWord m e :=
    (eq_word_of_ofWord (Float.ofNat n).toBits.toNat_lt hofNat).2.trans (Nat.zero_add _)
  have hbits : (UInt64.ofNat n).toFloat.toBits = (Float.ofNat n).toBits :=
    UInt64.toNat_inj.mp (hword.trans hword'.symm)
  rw [← ofBits_toBits (UInt64.ofNat n).toFloat, hbits, ofBits_toBits]

end Naturals

end BlockExtent.Binary64
