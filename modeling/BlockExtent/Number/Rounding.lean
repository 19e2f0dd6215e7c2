/-!
# Rounding exact values to decimals

A positive value `mantissa * 2 ^ exponent` is rounded to a number of decimal
places or of significant digits, in exact arithmetic and with a half going to the
even neighbour.

## Main definitions

* `roundHalfEven` — the integer nearest to a quotient.
* `scaledRatio` — `mantissa * 2 ^ exponent * 10 ^ places` as a quotient.
* `roundToPlaces` — the value rounded to a number of decimal places.
* `decimalExponent` — the exponent of the value's leading decimal digit.
* `roundToDigits` — the value rounded to a number of significant digits.
-/

namespace BlockExtent

/-- The integer nearest to `num / den`; a half goes to the even one. -/
def roundHalfEven (num den : Nat) : Nat :=
  let quotient := num / den
  let twice := 2 * (num % den)
  if twice < den then quotient
  else if den < twice then quotient + 1
  else if quotient % 2 = 0 then quotient else quotient + 1

/-- Numerator and denominator of `mantissa * 2 ^ exponent * 10 ^ places`. -/
def scaledRatio (mantissa : Nat) (exponent places : Int) : Nat × Nat :=
  (mantissa * Nat.pow 2 exponent.toNat * Nat.pow 10 places.toNat,
    Nat.pow 2 (-exponent).toNat * Nat.pow 10 (-places).toNat)

/-- The value in units of `10 ^ (-places)`, rounded. -/
def roundToPlaces (mantissa : Nat) (exponent places : Int) : Nat :=
  let ratio := scaledRatio mantissa exponent places
  roundHalfEven ratio.1 ratio.2

/-- The number of decimal digits of a number, one for zero. -/
def digitCount (n : Nat) : Nat := (Nat.toDigits 10 n).length

/-- The exponent `x` with `10 ^ x ≤ mantissa * 2 ^ exponent < 10 ^ (x + 1)`. -/
def decimalExponent (mantissa : Nat) (exponent : Int) : Int :=
  let ratio := scaledRatio mantissa exponent 0
  if ratio.2 ≤ ratio.1 then (digitCount (ratio.1 / ratio.2) : Int) - 1
  else -(digitCount ((ratio.2 - 1) / ratio.1) : Int)

/-- The value rounded to `count` significant digits: the digits as a number, and
the exponent of the leading one.  Rounding up to a power of ten moves the
exponent. -/
def roundToDigits (mantissa : Nat) (exponent : Int) (count : Nat) : Nat × Int :=
  let leading := decimalExponent mantissa exponent
  let digits := roundToPlaces mantissa exponent ((count : Int) - 1 - leading)
  if digits = Nat.pow 10 count then (Nat.pow 10 (count - 1), leading + 1) else (digits, leading)

end BlockExtent
