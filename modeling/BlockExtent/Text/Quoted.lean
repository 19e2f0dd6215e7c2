import BlockExtent.Text.Hexadecimal
import BlockExtent.Text.Unprintable

/-!
# Text in quotation marks

## Main definitions

* `quotedChar` — a character as it stands between quotation marks.
* `quotedText` — text in quotation marks.
-/

namespace BlockExtent

/-- A character between quotation marks: the mark itself, the backslash and the
common controls after a backslash, others without a form of their own by their
code point. -/
def quotedChar (c : Char) : List Char :=
  if c = '\x00' then ['\\', '0']
  else if c = '\t' then ['\\', 't']
  else if c = '\r' then ['\\', 'r']
  else if c = '\n' then ['\\', 'n']
  else if c = '\\' ∨ c = '\"' then ['\\', c]
  else if isUnprintable c then
    ['\\', 'u', '\x7b'] ++ hexDigits c.toNat ++ ['\x7d']
  else [c]

/-- Text in quotation marks. -/
def quotedText (s : String) : String :=
  String.ofList ('\"' :: (s.toList.flatMap quotedChar ++ ['\"']))

end BlockExtent
