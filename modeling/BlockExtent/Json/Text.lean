import BlockExtent.Json.Value
import BlockExtent.Number.FloatStyle
import BlockExtent.Text.Hexadecimal

/-!
# The text of JSON values

Values are written without any blank.  Numbers have the fewest digits that read
back, and what is no number is `null`.

## Main definitions

* `jsonNumber` — how numbers are written.
* `Json.stringText` — a string in quotation marks.
* `Json.text` — the text of a value.
-/

namespace BlockExtent

/-- Numbers in JSON text are written plainly from `10 ^ (-5)` up to below
`10 ^ 16`, and with the sign of the exponent elsewhere. -/
def jsonNumber : FloatStyle where
  plainFrom := -5
  plainTo := 15
  plusSign := true
  tie := .toEven

namespace Json

/-- The text of a number. -/
def numberText (x : Float) : List Char :=
  match Binary64.ofFloat x with
  | .finite negative mantissa exponent => jsonNumber.text negative mantissa exponent
  | _ => ['n', 'u', 'l', 'l']

/-- A character in a string: the quotation mark, the backslash and controls are
escaped. -/
def charText (c : Char) : List Char :=
  if c = '\"' ∨ c = '\\' then ['\\', c]
  else if c = '\x08' then ['\\', 'b']
  else if c = '\x0c' then ['\\', 'f']
  else if c = '\n' then ['\\', 'n']
  else if c = '\r' then ['\\', 'r']
  else if c = '\t' then ['\\', 't']
  else if c.toNat < 0x20 then ['\\', 'u'] ++ hexDigitsPadded 4 c.toNat
  else [c]

/-- A string in quotation marks. -/
def stringText (s : String) : List Char :=
  '\"' :: (s.toList.flatMap charText ++ ['\"'])

/-- Texts with commas between them. -/
def commaSeparated : List (List Char) → List Char
  | [] => []
  | [text] => text
  | text :: texts => text ++ ',' :: commaSeparated texts

mutual

/-- The text of a value. -/
def text : Json → List Char
  | .null => ['n', 'u', 'l', 'l']
  | .bool true => ['t', 'r', 'u', 'e']
  | .bool false => ['f', 'a', 'l', 's', 'e']
  | .number x => numberText x
  | .string s => stringText s
  | .array items => '[' :: (commaSeparated (itemTexts items) ++ [']'])
  | .object members => '\x7b' :: (commaSeparated (memberTexts members) ++ ['\x7d'])

/-- The texts of the items of an array. -/
def itemTexts : List Json → List (List Char)
  | [] => []
  | item :: items => item.text :: itemTexts items

/-- The texts of the members of an object. -/
def memberTexts : List (String × Json) → List (List Char)
  | [] => []
  | (name, value) :: members =>
    (stringText name ++ ':' :: value.text) :: memberTexts members

end

end Json

end BlockExtent
