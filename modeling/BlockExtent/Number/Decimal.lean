/-!
# Decimals

## Main definitions

* `Decimal` — a coefficient and an exponent of ten.
* `Decimal.normalize` — the decimal without zeros at the end of its coefficient.
* `Decimal.ratio` — the decimal as a quotient of natural numbers.
-/

namespace BlockExtent

/-- The number `coefficient * 10 ^ exponent`. -/
structure Decimal where
  /-- The digits as a number. -/
  coefficient : Nat
  /-- The power of ten they are multiplied by. -/
  exponent : Int
deriving DecidableEq, Repr, Inhabited

namespace Decimal

/-- Moves the zeros at the end of a coefficient into the exponent. -/
def normalize (d : Decimal) : Decimal :=
  if h : d.coefficient ≠ 0 ∧ d.coefficient % 10 = 0 then
    normalize ⟨d.coefficient / 10, d.exponent + 1⟩
  else d
termination_by d.coefficient
decreasing_by exact Nat.div_lt_self (Nat.pos_of_ne_zero h.1) (by decide)

/-- Numerator and denominator. -/
def ratio (d : Decimal) : Nat × Nat :=
  (d.coefficient * Nat.pow 10 d.exponent.toNat, Nat.pow 10 (-d.exponent).toNat)

theorem ratio_den_pos (d : Decimal) : 0 < d.ratio.2 := Nat.pow_pos (by decide)

end Decimal

end BlockExtent
