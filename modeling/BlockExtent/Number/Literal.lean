import BlockExtent.Number.Nearest

/-!
# Reading number text

A literal is a sign, digits with a point among them, and an exponent of ten.

## Main definitions

* `Literal` — what a literal denotes.
* `Literal.read?` — reads a literal at the start of a text.
* `readNumber?` — the number that a whole text denotes, be it finite or not.
-/

namespace BlockExtent

/-- What a literal denotes: a decimal with a sign, which counts for zero too. -/
structure Literal where
  /-- Whether there is a minus sign. -/
  negative : Bool
  /-- The decimal without the sign. -/
  magnitude : Decimal
deriving DecidableEq, Repr, Inhabited

/-- The digits at the start of a text, of which there has to be one, and what
follows them. -/
def readDigits? (text : List Char) : Option (List Char × List Char) :=
  let digits := text.takeWhile Char.isDigit
  if digits = [] then none else some (digits, text.dropWhile Char.isDigit)

/-- The digits after a point at the start of a text.  Without a point there are
none. -/
def readFraction? : List Char → Option (List Char × List Char)
  | '.' :: rest => readDigits? rest
  | text => some ([], text)

/-- The exponent at the start of a text, zero if there is none. -/
def readExponent? (text : List Char) : Option (Int × List Char) :=
  match text with
  | c :: rest =>
    if c = 'e' ∨ c = 'E' then
      match rest with
      | '-' :: rest =>
        (readDigits? rest).map fun (digits, rest) =>
          (-(Nat.ofDigitChars 10 digits 0 : Int), rest)
      | '+' :: rest =>
        (readDigits? rest).map fun (digits, rest) =>
          ((Nat.ofDigitChars 10 digits 0 : Int), rest)
      | rest =>
        (readDigits? rest).map fun (digits, rest) =>
          ((Nat.ofDigitChars 10 digits 0 : Int), rest)
    else some (0, text)
  | [] => some (0, [])

namespace Literal

/-- Reads a literal without a sign. -/
def readMagnitude? (text : List Char) : Option (Decimal × List Char) := do
  let (whole, rest) ← readDigits? text
  let (fraction, rest) ← readFraction? rest
  let (exponent, rest) ← readExponent? rest
  return (⟨Nat.ofDigitChars 10 (whole ++ fraction) 0, exponent - fraction.length⟩, rest)

/-- Reads a literal at the start of a text.  Gives what follows it too. -/
def read? : List Char → Option (Literal × List Char)
  | '-' :: text => (readMagnitude? text).map fun (d, rest) => (⟨true, d⟩, rest)
  | text => (readMagnitude? text).map fun (d, rest) => (⟨false, d⟩, rest)

/-- The number nearest to what a literal denotes. -/
def nearest (l : Literal) : Float := l.magnitude.nearest l.negative

end Literal

/-- The number that a text denotes: a literal, an infinity, or no number. -/
def readNumber? (text : List Char) : Option Float :=
  if text = ['n', 'a', 'n'] then some (Float.ofBits 0x7ff8000000000000)
  else if text = ['i', 'n', 'f'] then some (Float.ofBits 0x7ff0000000000000)
  else if text = ['-', 'i', 'n', 'f'] then some (Float.ofBits 0xfff0000000000000)
  else
    match Literal.read? text with
    | some (l, []) => some l.nearest
    | _ => none

end BlockExtent
