import BlockExtent.Number.Binary64
import BlockExtent.Number.Decimal
import BlockExtent.Number.Rounding

/-!
# The fewest digits that read back

Among the decimals that lie nearer to a binary64 number than to any other, the
ones with the fewest digits are considered, and of those the nearest is taken.

## Main definitions

* `Decimal.Tie` — which of two equally near decimals is taken.
* `ReadingInterval` — the decimals that are read as a certain number.
* `shortestDecimal` — the decimal of a positive value.
-/

namespace BlockExtent

/-- Which of two equally near decimals is taken. -/
inductive Decimal.Tie where
  /-- The one with an even coefficient. -/
  | toEven
  /-- The larger one. -/
  | up
deriving DecidableEq, Repr

/-- The decimals that a binary64 number is read from: those between the
midpoints to its neighbours.  In units of `2 ^ (exponent - 2)` the number is
`4 * mantissa`. -/
structure ReadingInterval where
  /-- The midpoint to the neighbour below. -/
  low : Nat
  /-- The midpoint to the neighbour above. -/
  high : Nat
  /-- The unit is `2 ^ exponent`. -/
  exponent : Int
  /-- Whether the midpoints themselves belong to it, being read to the even
  neighbour. -/
  closed : Bool

namespace ReadingInterval

/-- The interval of `mantissa * 2 ^ exponent`. -/
def ofBinary (mantissa : Nat) (exponent : Int) : ReadingInterval where
  low := 4 * mantissa - if Binary64.narrowBelow mantissa exponent then 1 else 2
  high := 4 * mantissa + 2
  exponent := exponent - 2
  closed := mantissa % 2 == 0

/-- Whether a decimal lies in the interval.  Both sides are compared as
multiples of one unit. -/
def contains (i : ReadingInterval) (d : Decimal) : Bool :=
  let unit := scaledRatio 1 i.exponent (-d.exponent)
  let value := d.coefficient * unit.2
  if i.closed then i.low * unit.1 ≤ value && value ≤ i.high * unit.1
  else i.low * unit.1 < value && value < i.high * unit.1

end ReadingInterval

/-- Of the neighbours `below` and `below + 1` of `num / den`, the one that
belongs to the interval, and the nearer one if both do. -/
def nearerNeighbour (tie : Decimal.Tie) (i : ReadingInterval) (num den : Nat)
    (exponent : Int) : Option Decimal :=
  let below := num / den
  let low : Decimal := ⟨below, exponent⟩
  let high : Decimal := ⟨below + 1, exponent⟩
  let twice := 2 * (num % den)
  match i.contains low, i.contains high with
  | true, false => some low
  | false, true => some high
  | false, false => none
  | true, true =>
    if twice < den then some low
    else if den < twice then some high
    else match tie with
      | .toEven => some (if below % 2 = 0 then low else high)
      | .up => some high

/-- The neighbour on the grid of `count` digits that belongs to the interval. -/
def shortestOfCount (tie : Decimal.Tie) (mantissa : Nat) (exponent : Int)
    (count : Nat) : Option Decimal :=
  let unit := decimalExponent mantissa exponent - ((count : Int) - 1)
  let ratio := scaledRatio mantissa exponent (-unit)
  nearerNeighbour tie (.ofBinary mantissa exponent) ratio.1 ratio.2 unit

/-- The decimal with the fewest digits that reads back as the positive value
`mantissa * 2 ^ exponent`.  Seventeen digits always suffice, so the search ends
there. -/
def shortestDecimal (tie : Decimal.Tie) (mantissa : Nat) (exponent : Int) : Decimal :=
  let found := (List.range' 1 17).findSome? (shortestOfCount tie mantissa exponent)
  (found.getD ⟨mantissa, 0⟩).normalize

end BlockExtent
