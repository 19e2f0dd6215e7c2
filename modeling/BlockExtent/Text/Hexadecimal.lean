/-!
# Hexadecimal numbers

## Main definitions

* `hexDigits` — a number in lower-case hexadecimal digits.
* `hexDigitsPadded` — the same, with zeros in front.
-/

namespace BlockExtent

/-- A number in lower-case hexadecimal digits. -/
def hexDigits (n : Nat) : List Char := Nat.toDigits 16 n

/-- A number in at least `width` lower-case hexadecimal digits. -/
def hexDigitsPadded (width n : Nat) : List Char :=
  List.replicate (width - (hexDigits n).length) '0' ++ hexDigits n

end BlockExtent
