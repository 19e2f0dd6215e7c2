import BlockExtent.Number.Shortest

/-!
# Shortest text of numbers

A number is written with the fewest digits that read back, in plain notation
while the exponent of its leading digit is in a certain range and in scientific
notation elsewhere.  Formats differ in the range and in details.

## Main definitions

* `FloatStyle` — the decisions of a format.
* `FloatStyle.text` — the text of a finite number.
-/

namespace BlockExtent

/-- How a format writes finite numbers. -/
structure FloatStyle where
  /-- The smallest exponent of a leading digit that is written plainly. -/
  plainFrom : Int
  /-- The largest exponent of a leading digit that is written plainly. -/
  plainTo : Int
  /-- Whether a positive exponent is written with its sign. -/
  plusSign : Bool
  /-- Which of two equally near decimals is taken. -/
  tie : Decimal.Tie

namespace FloatStyle

/-- Plain notation with at least one digit after the point. -/
def plainText (d : Decimal) : List Char :=
  let digits := Nat.toDigits 10 d.coefficient
  if 0 ≤ d.exponent then
    digits ++ List.replicate d.exponent.toNat '0' ++ ['.', '0']
  else
    let places := (-d.exponent).toNat
    let padded := List.replicate (places + 1 - digits.length) '0' ++ digits
    padded.take (padded.length - places) ++ '.' :: padded.drop (padded.length - places)

/-- Scientific notation, with a point only if there is more than one digit. -/
def scientificText (plusSign : Bool) (d : Decimal) : List Char :=
  let digits := Nat.toDigits 10 d.coefficient
  let leading := d.exponent + (digits.length : Int) - 1
  let sign := if leading < 0 then ['-'] else if plusSign then ['+'] else []
  let mantissa :=
    match digits with
    | [] => []
    | [c] => [c]
    | c :: cs => c :: '.' :: cs
  mantissa ++ 'e' :: (sign ++ Nat.toDigits 10 leading.natAbs)

/-- The text of a positive decimal. -/
def decimalText (style : FloatStyle) (d : Decimal) : List Char :=
  let leading := d.exponent + (digitCount d.coefficient : Int) - 1
  if style.plainFrom ≤ leading ∧ leading ≤ style.plainTo then plainText d
  else scientificText style.plusSign d

/-- The text of `mantissa * 2 ^ exponent` with a sign. -/
def text (style : FloatStyle) (negative : Bool) (mantissa : Nat) (exponent : Int) :
    List Char :=
  let magnitude :=
    if mantissa = 0 then ['0', '.', '0']
    else style.decimalText (shortestDecimal style.tie mantissa exponent)
  if negative then '-' :: magnitude else magnitude

end FloatStyle

end BlockExtent
