/-!
# What a binary64 number is

Text forms of floating point numbers are rules about exact values.  This module
reads the exact value off the bits.

## Main definitions

* `Binary64` — not a number, an infinity, or a sign with `mantissa * 2 ^ exponent`.
* `Binary64.ofFloat` — the reading of a `Float`.
-/

namespace BlockExtent

/-- What a binary64 word denotes. -/
inductive Binary64 where
  /-- Not a number. -/
  | nan
  /-- An infinity. -/
  | infinite (negative : Bool)
  /-- A signed multiple `mantissa * 2 ^ exponent` of a power of two.  Zero has
  the mantissa `0` and keeps its sign. -/
  | finite (negative : Bool) (mantissa : Nat) (exponent : Int)
deriving DecidableEq, Repr

namespace Binary64

/-- Reads a word of 64 bits: one for the sign, eleven for the exponent, 52 for
the fraction.  The exponent zero marks the numbers without an implied leading
bit. -/
def ofWord (word : Nat) : Binary64 :=
  let negative := word / Nat.pow 2 63 % 2 == 1
  let exponent : Nat := word / Nat.pow 2 52 % Nat.pow 2 11
  let fraction := word % Nat.pow 2 52
  if exponent = Nat.pow 2 11 - 1 then
    if fraction = 0 then .infinite negative else .nan
  else if exponent = 0 then .finite negative fraction (-1074)
  else .finite negative (Nat.pow 2 52 + fraction) ((exponent : Int) - 1075)

/-- Reads a number. -/
def ofFloat (x : Float) : Binary64 := ofWord x.toBits.toNat

/-- Whether the gap below a mantissa is half the gap above it: the mantissa is a
power of two, and not of the smallest exponent. -/
def narrowBelow (mantissa : Nat) (exponent : Int) : Bool :=
  mantissa == Nat.pow 2 52 && exponent != -1074

end Binary64

end BlockExtent
