import BlockExtent.Number.Decimal
import BlockExtent.Number.Rounding

/-!
# The number nearest to a decimal

Reading rounds once: the exact quotient that a decimal denotes is rounded to the
nearest binary64 number, a half going to the even one, and what is too large is
an infinity.

## Main definitions

* `binaryExponent` — the exponent of the leading binary digit of a quotient.
* `nearestWord` — the bits of the number nearest to a quotient.
* `Decimal.nearest` — the number nearest to a decimal with a sign.
-/

namespace BlockExtent

/-- The exponent `x` with `2 ^ x ≤ num / den < 2 ^ (x + 1)`, for a positive
quotient. -/
def binaryExponent (num den : Nat) : Int :=
  if den ≤ num then (Nat.log2 (num / den) : Int)
  else -(Nat.log2 ((den - 1) / num) : Int) - 1

/-- The bits of positive infinity, which all finite numbers stay below. -/
def infinityWord : Nat := 2047 * Nat.pow 2 52

/-- The bits of the number nearest to `num / den`.  The last place of a number
with the leading exponent `x` is `2 ^ (x - 52)`, but none is smaller than
`2 ^ (-1074)`.  Since a number and its bits grow together, rounding up to a power
of two moves the exponent by itself. -/
def nearestWord (num den : Nat) : Nat :=
  if num = 0 then 0
  else
    let place := max (binaryExponent num den - 52) (-1074)
    let units := roundHalfEven (num * Nat.pow 2 (-place).toNat) (den * Nat.pow 2 place.toNat)
    min ((place + 1074).toNat * Nat.pow 2 52 + units) infinityWord

/-- The number nearest to a decimal with a sign.  The sign of zero is kept. -/
def Decimal.nearest (negative : Bool) (d : Decimal) : Float :=
  let word := nearestWord d.ratio.1 d.ratio.2
  Float.ofBits (UInt64.ofNat (if negative then Nat.pow 2 63 + word else word))

end BlockExtent
