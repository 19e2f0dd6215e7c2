import BlockExtent.Number.Binary64
import BlockExtent.Number.Rounding
import BlockExtent.Number.Word
import BlockExtent.Text.Trailing

/-!
# General number text

The text of the `printf` conversion `%.<p>g`: `p` significant digits without trailing
zeros, in plain notation when the exponent of the leading digit is at least `-4`
and below `p`, and in scientific notation otherwise.

## Main definitions

* `scientificMantissa` — digits with a point after the first.
* `fixedText` — a number of units of `10 ^ (-places)` written out.
* `generalText` — the text of a number.
-/

namespace BlockExtent

/-- Drops the zeros at the end of a fraction, and the point when nothing is left
behind it.  Text without a point is kept. -/
def withoutFinalZeros (text : List Char) : List Char :=
  if text.contains '.' then dropTrailing (· == '.') (dropTrailing (· == '0') text)
  else text

/-- Digits with a point after the first, if there is more than one. -/
def scientificMantissa (digits : Nat) : List Char :=
  match Nat.toDigits 10 digits with
  | [] => []
  | [d] => [d]
  | d :: ds => d :: '.' :: ds

/-- `units * 10 ^ (-places)` in plain notation, with exactly `places` digits
after the point. -/
def fixedText (units places : Nat) : List Char :=
  let digits := Nat.toDigits 10 units
  let padded := List.replicate (places + 1 - digits.length) '0' ++ digits
  let whole := padded.take (padded.length - places)
  if places = 0 then whole else whole ++ '.' :: padded.drop (padded.length - places)

/-- The exponent of scientific text: a sign and at least two digits. -/
def exponentText (exponent : Int) : List Char :=
  let digits := Nat.toDigits 10 exponent.natAbs
  (if exponent < 0 then '-' else '+') ::
    (List.replicate (2 - digits.length) '0' ++ digits)

/-- The text of the positive value `mantissa * 2 ^ exponent`.  Which notation it
gets is read off the value rounded to `precision` digits; the plain text rounds
the value itself to the places that leaves.  The precision and the places are counted
in signed words of 32 bits, so places beyond their range become astronomically many. -/
def generalMagnitude (mantissa : Nat) (exponent : Int) (precision : Nat) : List Char :=
  let (digits, leading) := roundToDigits mantissa exponent precision
  let count := signedWord 32 precision
  if leading < -4 ∨ count ≤ leading then
    withoutFinalZeros (scientificMantissa digits) ++ 'e' :: exponentText leading
  else
    let places := indexWord (signedWord 32 (count - 1 - leading))
    withoutFinalZeros (fixedText (roundToPlaces mantissa exponent places) places)

/-- The text of a number with `precision` significant digits; at least one is
used. -/
def generalText (x : Float) (precision : Nat) : String :=
  match Binary64.ofFloat x with
  | .nan => "nan"
  | .infinite negative => if negative then "-inf" else "inf"
  | .finite negative mantissa exponent =>
    let magnitude :=
      if mantissa = 0 then ['0']
      else generalMagnitude mantissa exponent (max precision 1)
    String.ofList (if negative then '-' :: magnitude else magnitude)

end BlockExtent
