/-!
# Numbers that coordinates are computed in

Block edges are computed in binary64 when the program runs.  The same formulas,
read over the rationals, say where the edges are before any rounding.  Both
readings share one definition by way of the class below.

## Main definitions

* `Coordinate α` — the operations the coordinate formulas need, and the
  inclusion of the natural numbers (`Coordinate.ofNat`) and of one half
  (`Coordinate.half`).
-/

namespace BlockExtent

/-- The operations that the coordinate formulas use.  No law is required, since
binary64 satisfies few of them. -/
class Coordinate (α : Type) extends Add α, Sub α, Mul α, Div α, Neg α, BEq α where
  /-- The number nearest to a natural number. -/
  ofNat : Nat → α
  /-- One half, the offset of a pixel's centre from its corner. -/
  half : α

/-- Binary64, the arithmetic of a run. -/
instance : Coordinate Float where
  ofNat := Float.ofNat
  half := 0.5

/-- Exact arithmetic. -/
instance : Coordinate Rat where
  ofNat n := (n : Rat)
  half := 1 / 2

end BlockExtent
