import BlockExtent.Proofs.Number.Quotient
import Mathlib.Tactic.NormNum

/-!
# Values rounded to decimals

Rounding to an integer moves a quotient by half a unit at most.  A value that is rounded to a
number of digits has that many, since its leading digit stays where it is or becomes a one with
zeros behind it, one place further up.

## Main definitions

* `IsRounded` — some digits stand for a value rounded to their number.

## Main results

* `abs_roundHalfEven_sub_le`, `abs_roundToPlaces_sub_le` — how far rounding goes.
* `isRounded_roundToDigits` — what is rounded to a number of digits.
-/

namespace BlockExtent

/-- Rounding to an integer moves a quotient by half a unit at most. -/
theorem abs_roundHalfEven_sub_le {num den : ℕ} (hden : 0 < den) :
    |(roundHalfEven num den : ℚ) - num / den| ≤ 1 / 2 := by
  obtain ⟨hlow, hhigh, -⟩ := roundHalfEven_bounds_toRat num hden
  exact abs_le.mpr ⟨by linarith, by linarith⟩

section Places

variable (mantissa : ℕ) (exponent places : ℤ)

/-- Rounding to places, in units of the last place. -/
theorem abs_roundToPlaces_sub_le :
    |(roundToPlaces mantissa exponent places : ℚ) - mantissa * 2 ^ exponent * 10 ^ places|
      ≤ 1 / 2 := by
  rw [← scaledRatio_toRat]
  exact abs_roundHalfEven_sub_le (scaledRatio_den_pos mantissa exponent places)

/-- **Rounding to places moves a value by half a unit of the last place at most.** -/
theorem abs_toRat_roundToPlaces_sub_le :
    |Decimal.toRat ⟨roundToPlaces mantissa exponent places, -places⟩ - mantissa * 2 ^ exponent|
      ≤ 10 ^ (-places) / 2 := by
  have hunit : (0 : ℚ) < 10 ^ (-places) := by positivity
  have hround := abs_roundToPlaces_sub_le mantissa exponent places
  have hscale : Decimal.toRat ⟨roundToPlaces mantissa exponent places, -places⟩
      - mantissa * 2 ^ exponent
      = (roundToPlaces mantissa exponent places - mantissa * 2 ^ exponent * 10 ^ places)
        * 10 ^ (-places) := by
    unfold Decimal.toRat
    rw [sub_mul, mul_assoc _ ((10 : ℚ) ^ places), zpow_neg,
      mul_inv_cancel₀ (zpow_ne_zero places (by norm_num)), mul_one]
  rw [hscale, abs_mul, abs_of_pos hunit]
  calc |(roundToPlaces mantissa exponent places : ℚ) - mantissa * 2 ^ exponent * 10 ^ places|
        * 10 ^ (-places)
      ≤ 1 / 2 * 10 ^ (-places) := mul_le_mul_of_nonneg_right hround hunit.le
    _ = 10 ^ (-places) / 2 := by ring

end Places

section Digits

variable {mantissa : ℕ} (hmantissa : 0 < mantissa) (exponent : ℤ) {count : ℕ} (hcount : 0 < count)
include hmantissa hcount

/-- A value rounded to the places of so many digits has them, or is the power of ten that comes
next. -/
theorem roundToPlaces_bounds :
    10 ^ (count - 1)
        ≤ roundToPlaces mantissa exponent ((count : ℤ) - 1 - decimalExponent mantissa exponent)
      ∧ roundToPlaces mantissa exponent ((count : ℤ) - 1 - decimalExponent mantissa exponent)
        ≤ 10 ^ count := by
  obtain ⟨hlow, hhigh⟩ := decimalExponent_bounds hmantissa exponent
  have hround := abs_roundToPlaces_sub_le mantissa exponent
    ((count : ℤ) - 1 - decimalExponent mantissa exponent)
  generalize decimalExponent mantissa exponent = leading at hlow hhigh hround
  generalize roundToPlaces mantissa exponent ((count : ℤ) - 1 - leading) = units at hround
  obtain ⟨hbelow, habove⟩ := abs_le.mp hround
  have hscale : (0 : ℚ) < 10 ^ ((count : ℤ) - 1 - leading) := by positivity
  have hbottom : (10 : ℚ) ^ (count - 1)
      ≤ mantissa * 2 ^ exponent * 10 ^ ((count : ℤ) - 1 - leading) := by
    calc (10 : ℚ) ^ (count - 1)
        = 10 ^ leading * 10 ^ ((count : ℤ) - 1 - leading) := by
          rw [← zpow_natCast, ← zpow_add₀ (by norm_num)]
          congr 1
          omega
      _ ≤ _ := mul_le_mul_of_nonneg_right hlow hscale.le
  have htop : mantissa * 2 ^ exponent * 10 ^ ((count : ℤ) - 1 - leading) < (10 : ℚ) ^ count := by
    calc (mantissa : ℚ) * 2 ^ exponent * 10 ^ ((count : ℤ) - 1 - leading)
        < 10 ^ (leading + 1) * 10 ^ ((count : ℤ) - 1 - leading) :=
          mul_lt_mul_of_pos_right hhigh hscale
      _ = 10 ^ count := by
          rw [← zpow_natCast, ← zpow_add₀ (by norm_num)]
          congr 1
          omega
  constructor
  · have hlt : ((10 ^ (count - 1) : ℕ) : ℚ) < units + 1 := by
      push_cast
      linarith
    exact Nat.lt_succ_iff.mp (by exact_mod_cast hlt)
  · have hlt : (units : ℚ) < (10 ^ count : ℕ) + 1 := by
      push_cast
      linarith
    exact Nat.lt_succ_iff.mp (by exact_mod_cast hlt)

omit hmantissa hcount in
/-- So many digits, the first of them with an exponent, stand for a value that is rounded to
them. -/
structure IsRounded (mantissa : ℕ) (exponent : ℤ) (count digits : ℕ) (leading : ℤ) : Prop where
  low : 10 ^ (count - 1) ≤ digits
  high : digits < 10 ^ count
  le_leading : decimalExponent mantissa exponent ≤ leading
  leading_le : leading ≤ decimalExponent mantissa exponent + 1
  near : |Decimal.toRat ⟨digits, leading - (count - 1)⟩ - mantissa * 2 ^ exponent|
    ≤ 10 ^ (decimalExponent mantissa exponent - (count - 1)) / 2

omit hmantissa hcount in
/-- There are as many digits as were asked for. -/
theorem IsRounded.digitCount_eq {digits : ℕ} {leading : ℤ}
    (h : IsRounded mantissa exponent count digits leading) : digitCount digits = count := by
  have hpos : 0 < digits := Nat.lt_of_lt_of_le (Nat.pow_pos (by decide)) h.low
  obtain ⟨hlow, hhigh⟩ := digitCount_bounds hpos
  have hle : digitCount digits - 1 < count :=
    (Nat.pow_lt_pow_iff_right (by decide)).mp (lt_of_le_of_lt hlow h.high)
  have hge : count - 1 < digitCount digits :=
    (Nat.pow_lt_pow_iff_right (by decide)).mp (lt_of_le_of_lt h.low hhigh)
  omega

omit hmantissa in
/-- What a value is rounded to does not depend on whether its leading digit has moved. -/
theorem toRat_roundToDigits :
    Decimal.toRat ⟨(roundToDigits mantissa exponent count).1,
        (roundToDigits mantissa exponent count).2 - (count - 1)⟩
      = Decimal.toRat
        ⟨roundToPlaces mantissa exponent ((count : ℤ) - 1 - decimalExponent mantissa exponent),
          decimalExponent mantissa exponent - (count - 1)⟩ := by
  unfold roundToDigits
  dsimp only
  split
  · -- the next power of ten has its digits one place further up
    rename_i hpower
    rw [hpower]
    unfold Decimal.toRat
    simp only [Nat.pow_eq]
    push_cast
    rw [← zpow_natCast, ← zpow_natCast, ← zpow_add₀ (by norm_num), ← zpow_add₀ (by norm_num)]
    congr 1
    omega
  · rfl

/-- **What is rounded to a number of digits has that many**, and is as near as they allow. -/
theorem isRounded_roundToDigits :
    IsRounded mantissa exponent count (roundToDigits mantissa exponent count).1
      (roundToDigits mantissa exponent count).2 := by
  obtain ⟨hlow, hhigh⟩ := roundToPlaces_bounds hmantissa exponent hcount
  have hnear := abs_toRat_roundToPlaces_sub_le mantissa exponent
    ((count : ℤ) - 1 - decimalExponent mantissa exponent)
  rw [show -((count : ℤ) - 1 - decimalExponent mantissa exponent)
    = decimalExponent mantissa exponent - (count - 1) by ring,
    ← toRat_roundToDigits exponent hcount] at hnear
  unfold roundToDigits at hnear ⊢
  simp only [Nat.pow_eq] at hnear ⊢
  split
  · rename_i hpower
    rw [if_pos hpower] at hnear
    exact ⟨le_rfl, Nat.pow_lt_pow_right (by decide) (by omega), by omega, le_rfl, hnear⟩
  · rename_i hne
    rw [if_neg hne] at hnear
    exact ⟨hlow, by omega, le_rfl, by omega, hnear⟩

end Digits

end BlockExtent
