import BlockExtent.Number.Nearest
import Mathlib.Algebra.Order.Field.Power
import Mathlib.Tactic.FieldSimp
import Mathlib.Tactic.Linarith
import Mathlib.Tactic.Positivity
import Mathlib.Tactic.Ring

/-!
# Quotients and their leading digits

Number texts are computed in natural numbers, a value being a numerator and a
denominator.  Here these pairs are read as rational numbers, where powers with
negative exponents are at hand, and the exponents of leading digits are bounded.

## Main definitions

* `Decimal.toRat` — the number that a decimal stands for.

## Main results

* `scaledRatio_toRat`, `Decimal.ratio_toRat` — what the pairs stand for.
* `binaryExponent_bounds`, `decimalExponent_bounds` — a quotient lies between two
  powers of the base.
* `roundHalfEven_eq`, `roundHalfEven_bounds` — what is rounded to a given integer, and what a
  quotient is rounded to.
-/

namespace BlockExtent

/-! ### Pairs as rational numbers -/

/-- A power with an integer exponent is a quotient of two natural powers. -/
private theorem pow_toNat_div (b : ℚ) (x : ℤ) :
    b ^ x.toNat / b ^ (-x).toNat = b ^ x := by
  rcases Int.le_total 0 x with hx | hx
  · obtain ⟨n, rfl⟩ := Int.eq_ofNat_of_zero_le hx
    simp
  · obtain ⟨n, rfl⟩ := Int.exists_eq_neg_ofNat hx
    simp

/-- The number that a decimal stands for. -/
def Decimal.toRat (d : Decimal) : ℚ := d.coefficient * 10 ^ d.exponent

theorem Decimal.ratio_toRat (d : Decimal) : (d.ratio.1 : ℚ) / d.ratio.2 = d.toRat := by
  unfold Decimal.ratio Decimal.toRat
  simp only [Nat.pow_eq]
  push_cast
  rw [mul_div_assoc, pow_toNat_div 10]

theorem scaledRatio_toRat (mantissa : ℕ) (exponent places : ℤ) :
    ((scaledRatio mantissa exponent places).1 : ℚ) / (scaledRatio mantissa exponent places).2
      = mantissa * 2 ^ exponent * 10 ^ places := by
  unfold scaledRatio
  simp only [Nat.pow_eq]
  push_cast
  rw [mul_div_mul_comm, mul_div_assoc, pow_toNat_div 2,
    pow_toNat_div 10]

theorem scaledRatio_den_pos (mantissa : ℕ) (exponent places : ℤ) :
    0 < (scaledRatio mantissa exponent places).2 := by
  unfold scaledRatio
  simp only [Nat.pow_eq]
  positivity

/-! ### Words of quotients -/

theorem infinityWord_eq : infinityWord = 2047 * 2 ^ 52 := rfl

/-- The word of a quotient is its units in the last place, after those of the exponents below. -/
theorem nearestWord_of_place {num den : ℕ} (hnum : 0 < num) {place : ℤ}
    (hplace : max (binaryExponent num den - 52) (-1074) = place) :
    nearestWord num den = min ((place + 1074).toNat * 2 ^ 52
      + roundHalfEven (num * 2 ^ (-place).toNat) (den * 2 ^ place.toNat)) infinityWord := by
  subst hplace
  exact if_neg hnum.ne'

/-! ### Leading digits -/

section LeadingDigit

variable {num den : ℕ} (hnum : 0 < num) (hden : 0 < den)
include hnum hden

/-- A quotient below one lies between the inverses of two powers, if the quotient
upside down lies between the powers. -/
private theorem bounds_of_lt {b : ℕ} (hb : 1 < b) {c : ℕ}
    (hlow : b ^ c ≤ (den - 1) / num) (hhigh : (den - 1) / num < b ^ (c + 1)) :
    (b : ℚ) ^ (-(c : ℤ) - 1) ≤ (num : ℚ) / den ∧ (num : ℚ) / den < (b : ℚ) ^ (-(c : ℤ)) := by
  have hbq : (0 : ℚ) < b := by positivity
  have hdenq : (0 : ℚ) < den := by positivity
  have habove : den ≤ num * b ^ (c + 1) := by
    have := (Nat.div_lt_iff_lt_mul hnum).mp hhigh
    rw [Nat.mul_comm]
    omega
  have hbelow : b ^ c * num < den := by
    have := (Nat.le_div_iff_mul_le hnum).mp hlow
    omega
  constructor
  · rw [show -(c : ℤ) - 1 = -((c + 1 : ℕ) : ℤ) by push_cast; ring, zpow_neg, zpow_natCast,
      le_div_iff₀ hdenq, inv_mul_le_iff₀ (by positivity), mul_comm]
    exact_mod_cast habove
  · rw [zpow_neg, zpow_natCast, div_lt_iff₀ hdenq, lt_inv_mul_iff₀ (by positivity)]
    exact_mod_cast hbelow

omit hnum in
/-- A quotient of at least one lies between two powers, if its integer part
does. -/
private theorem bounds_of_le {b : ℕ} {c : ℕ} (hlow : b ^ c ≤ num / den)
    (hhigh : num / den < b ^ (c + 1)) :
    (b : ℚ) ^ (c : ℤ) ≤ (num : ℚ) / den ∧ (num : ℚ) / den < (b : ℚ) ^ ((c : ℤ) + 1) := by
  have hdenq : (0 : ℚ) < den := by positivity
  constructor
  · rw [zpow_natCast, le_div_iff₀ hdenq]
    exact_mod_cast (Nat.le_div_iff_mul_le hden).mp hlow
  · rw [show (c : ℤ) + 1 = ((c + 1 : ℕ) : ℤ) by push_cast; ring, zpow_natCast,
      div_lt_iff₀ hdenq]
    exact_mod_cast (Nat.div_lt_iff_lt_mul hden).mp hhigh

/-- The leading binary digit of a quotient. -/
theorem binaryExponent_bounds :
    (2 : ℚ) ^ binaryExponent num den ≤ (num : ℚ) / den
      ∧ (num : ℚ) / den < (2 : ℚ) ^ (binaryExponent num den + 1) := by
  unfold binaryExponent
  split
  · rename_i hle
    have hpos : num / den ≠ 0 := (Nat.div_pos hle hden).ne'
    exact_mod_cast bounds_of_le hden (Nat.log2_self_le hpos) Nat.lt_log2_self
  · rename_i hlt
    have hpos : (den - 1) / num ≠ 0 := (Nat.div_pos (by omega) hnum).ne'
    have hbounds := bounds_of_lt hnum hden (b := 2) (by decide) (Nat.log2_self_le hpos)
      Nat.lt_log2_self
    rw [sub_add_cancel]
    exact_mod_cast hbounds

end LeadingDigit

/-- A positive number lies between two powers of ten. -/
theorem digitCount_bounds {n : ℕ} (hn : 0 < n) :
    10 ^ (digitCount n - 1) ≤ n ∧ n < 10 ^ digitCount n := by
  have hpos : 0 < digitCount n := Nat.length_toDigits_pos
  refine ⟨?_, (Nat.length_toDigits_le_iff (by decide) hpos).mp le_rfl⟩
  rcases Nat.eq_zero_or_pos (digitCount n - 1) with h | h
  · rw [h]
    exact hn
  · by_contra hlt
    have := (Nat.length_toDigits_le_iff (by decide) h).mpr (not_le.mp hlt)
    change digitCount n ≤ digitCount n - 1 at this
    omega

/-- The leading decimal digit of a positive value. -/
theorem decimalExponent_bounds {mantissa : ℕ} (hm : 0 < mantissa) (exponent : ℤ) :
    (10 : ℚ) ^ decimalExponent mantissa exponent ≤ mantissa * 2 ^ exponent
      ∧ (mantissa * 2 ^ exponent : ℚ) < (10 : ℚ) ^ (decimalExponent mantissa exponent + 1) := by
  have hvalue : (mantissa * 2 ^ exponent : ℚ)
      = ((scaledRatio mantissa exponent 0).1 : ℚ) / (scaledRatio mantissa exponent 0).2 := by
    rw [scaledRatio_toRat, zpow_zero, mul_one]
  have hden := scaledRatio_den_pos mantissa exponent 0
  have hnum : 0 < (scaledRatio mantissa exponent 0).1 := by
    unfold scaledRatio
    simp only [Nat.pow_eq]
    positivity
  rw [hvalue]
  unfold decimalExponent
  dsimp only
  generalize scaledRatio mantissa exponent 0 = ratio at hden hnum
  split
  · -- the integer part has the leading digit
    rename_i hle
    obtain ⟨hlow, hhigh⟩ := digitCount_bounds (Nat.div_pos hle hden)
    have hcount : digitCount (ratio.1 / ratio.2) - 1 + 1 = digitCount (ratio.1 / ratio.2) :=
      Nat.succ_pred_eq_of_pos Nat.length_toDigits_pos
    rw [← hcount] at hhigh ⊢
    push_cast
    rw [add_sub_cancel_right]
    exact_mod_cast bounds_of_le hden hlow hhigh
  · -- below one, the reciprocal tells how many zeros come first
    rename_i hlt
    have hpos : 0 < (ratio.2 - 1) / ratio.1 := Nat.div_pos (by omega) hnum
    obtain ⟨hlow, hhigh⟩ := digitCount_bounds hpos
    have hcount : digitCount ((ratio.2 - 1) / ratio.1) - 1 + 1
        = digitCount ((ratio.2 - 1) / ratio.1) :=
      Nat.succ_pred_eq_of_pos Nat.length_toDigits_pos
    have hbounds := bounds_of_lt hnum hden (b := 10) (by decide) hlow
      (by rw [hcount]; exact hhigh)
    rw [← hcount]
    push_cast
    rw [neg_add_rev, neg_add_cancel_comm, neg_add_eq_sub]
    exact_mod_cast hbounds

/-! ### Rounding -/

/-- What lies nearer to `n` than to any other integer is rounded to `n`, and what
lies halfway is if `n` is even. -/
theorem roundHalfEven_eq {num den n : ℕ} (hden : 0 < den)
    (hlow : 2 * n * den ≤ 2 * num + den) (hhigh : 2 * num ≤ 2 * n * den + den)
    (htie : n % 2 = 0 ∨ (2 * n * den < 2 * num + den ∧ 2 * num < 2 * n * den + den)) :
    roundHalfEven num den = n := by
  have hsplit : num = den * (num / den) + num % den := (Nat.div_add_mod num den).symm
  have hrem : num % den < den := Nat.mod_lt _ hden
  unfold roundHalfEven
  dsimp only
  generalize num / den = q at hsplit
  generalize num % den = r at hsplit hrem
  subst hsplit
  -- the integer part is `n` or the number below it
  have hq : q = n ∨ q + 1 = n := by
    have hle : q ≤ n := by
      by_contra hlt
      have : (n + 1) * den ≤ q * den := Nat.mul_le_mul_right den (by omega)
      nlinarith
    have hge : n ≤ q + 1 := by
      by_contra hlt
      have : (q + 2) * den ≤ n * den := Nat.mul_le_mul_right den (by omega)
      nlinarith
    omega
  rcases hq with rfl | rfl
  · have hr : 2 * r ≤ den := by nlinarith
    rw [if_neg (by omega : ¬ den < 2 * r)]
    split
    · rfl
    · rw [if_pos]
      rcases htie with heven | ⟨-, hlt⟩
      · exact heven
      · nlinarith
  · have hr : den ≤ 2 * r := by nlinarith
    rw [if_neg (by omega : ¬ 2 * r < den)]
    split
    · rfl
    · rw [if_neg]
      rcases htie with heven | ⟨hlt, -⟩
      · omega
      · nlinarith

/-- The same for a quotient read as a rational number. -/
theorem roundHalfEven_eq_of_toRat {num den n : ℕ} (hden : 0 < den)
    (hlow : (n : ℚ) - 1 / 2 ≤ (num : ℚ) / den) (hhigh : (num : ℚ) / den ≤ n + 1 / 2)
    (htie : n % 2 = 0 ∨ ((n : ℚ) - 1 / 2 < (num : ℚ) / den ∧ (num : ℚ) / den < n + 1 / 2)) :
    roundHalfEven num den = n := by
  have hdenq : (0 : ℚ) < den := by positivity
  have hle : 2 * n * den ≤ 2 * num + den := by
    rw [le_div_iff₀ hdenq] at hlow
    have : (2 * n * den : ℚ) ≤ 2 * num + den := by linarith
    exact_mod_cast this
  have hge : 2 * num ≤ 2 * n * den + den := by
    rw [div_le_iff₀ hdenq] at hhigh
    have : (2 * num : ℚ) ≤ 2 * n * den + den := by linarith
    exact_mod_cast this
  refine roundHalfEven_eq hden hle hge (htie.imp_right fun ⟨hlt, hgt⟩ => ⟨?_, ?_⟩)
  · rw [lt_div_iff₀ hdenq] at hlt
    have : (2 * n * den : ℚ) < 2 * num + den := by linarith
    exact_mod_cast this
  · rw [div_lt_iff₀ hdenq] at hgt
    have : (2 * num : ℚ) < 2 * n * den + den := by linarith
    exact_mod_cast this

/-- What a quotient is rounded to is at most half a unit away, and even if it is just that. -/
theorem roundHalfEven_bounds (num : ℕ) {den : ℕ} (hden : 0 < den) :
    2 * roundHalfEven num den * den ≤ 2 * num + den
      ∧ 2 * num ≤ 2 * roundHalfEven num den * den + den
      ∧ (roundHalfEven num den % 2 = 0 ∨ (2 * roundHalfEven num den * den < 2 * num + den
        ∧ 2 * num < 2 * roundHalfEven num den * den + den)) := by
  have hsplit : num = den * (num / den) + num % den := (Nat.div_add_mod num den).symm
  have hrem : num % den < den := Nat.mod_lt _ hden
  unfold roundHalfEven
  dsimp only
  generalize num / den = q at hsplit
  generalize num % den = r at hsplit hrem
  subst hsplit
  split_ifs with hdown hup heven
  · exact ⟨by nlinarith, by nlinarith, .inr ⟨by nlinarith, by nlinarith⟩⟩
  · exact ⟨by nlinarith, by nlinarith, .inr ⟨by nlinarith, by nlinarith⟩⟩
  · exact ⟨by nlinarith, by nlinarith, .inl heven⟩
  · exact ⟨by nlinarith, by nlinarith, .inl (by omega)⟩

/-- The same for a quotient read as a rational number. -/
theorem roundHalfEven_bounds_toRat (num : ℕ) {den : ℕ} (hden : 0 < den) :
    (roundHalfEven num den : ℚ) - 1 / 2 ≤ (num : ℚ) / den
      ∧ (num : ℚ) / den ≤ roundHalfEven num den + 1 / 2
      ∧ (roundHalfEven num den % 2 = 0 ∨ ((roundHalfEven num den : ℚ) - 1 / 2 < (num : ℚ) / den
        ∧ (num : ℚ) / den < roundHalfEven num den + 1 / 2)) := by
  have hdenq : (0 : ℚ) < den := by positivity
  obtain ⟨hle, hge, htie⟩ := roundHalfEven_bounds num hden
  generalize roundHalfEven num den = n at hle hge htie
  refine ⟨?_, ?_, htie.imp_right fun ⟨hlt, hgt⟩ => ⟨?_, ?_⟩⟩
  · rw [le_div_iff₀ hdenq]
    have : (2 * n * den : ℚ) ≤ 2 * num + den := by exact_mod_cast hle
    linarith
  · rw [div_le_iff₀ hdenq]
    have : (2 * num : ℚ) ≤ 2 * n * den + den := by exact_mod_cast hge
    linarith
  · rw [lt_div_iff₀ hdenq]
    have : (2 * n * den : ℚ) < 2 * num + den := by exact_mod_cast hlt
    linarith
  · rw [div_lt_iff₀ hdenq]
    have : (2 * num : ℚ) < 2 * n * den + den := by exact_mod_cast hgt
    linarith

/-- A quotient with powers of two moved between its parts. -/
theorem scaled_toRat (num den : ℕ) (place : ℤ) :
    ((num * 2 ^ (-place).toNat : ℕ) : ℚ) / (den * 2 ^ place.toNat : ℕ)
      = (num : ℚ) / den / 2 ^ place := by
  rw [← pow_toNat_div 2 place]
  push_cast
  field_simp

end BlockExtent
