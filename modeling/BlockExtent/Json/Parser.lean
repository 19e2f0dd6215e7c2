import BlockExtent.Json.Value
import BlockExtent.Number.Literal

/-!
# Reading JSON text

The parser takes a text apart from its start.  Each step gives what it has read
and what follows, and none if the text is no JSON.

## Main definitions

* `Json.readString?` — the characters of a string.
* `Json.readValue?` — a value at the start of a text.
* `Json.parse?` — the value that a whole text denotes.
-/

namespace BlockExtent.Json

/-- Whether a character may stand between the parts of a text. -/
def isGap (c : Char) : Bool := c == ' ' || c == '\t' || c == '\n' || c == '\r'

/-- A text without what may stand in front of its first part. -/
def skipGap (text : List Char) : List Char := text.dropWhile isGap

/-! ### Strings -/

/-- The value of a hexadecimal digit. -/
def hexValue? (c : Char) : Option Nat :=
  if c.isDigit then some (c.toNat - '0'.toNat)
  else if 'a' ≤ c ∧ c ≤ 'f' then some (c.toNat - 'a'.toNat + 10)
  else if 'A' ≤ c ∧ c ≤ 'F' then some (c.toNat - 'A'.toNat + 10)
  else none

/-- The number of four hexadecimal digits. -/
def hexQuad? (a b c d : Char) : Option Nat := do
  return ((← hexValue? a) * 16 + (← hexValue? b)) * 256
    + ((← hexValue? c) * 16 + (← hexValue? d))

/-- The character that a backslash and a letter stand for. -/
def escaped? (c : Char) : Option Char :=
  if c = '\"' ∨ c = '\\' ∨ c = '/' then some c
  else if c = 'b' then some '\x08'
  else if c = 'f' then some '\x0c'
  else if c = 'n' then some '\n'
  else if c = 'r' then some '\r'
  else if c = 't' then some '\t'
  else none

/-- The character of a code point that is no half of a pair. -/
def charOf? (n : Nat) : Option Char :=
  if h : n.isValidChar then some (Char.ofNatAux n h) else none

/-- Whether a code point is the first half of a pair. -/
def isHighHalf (n : Nat) : Bool := 0xd800 ≤ n && n < 0xdc00

/-- The character of a pair of halves. -/
def pairOf? (high low : Nat) : Option Char :=
  if 0xdc00 ≤ low ∧ low < 0xe000 then
    charOf? (0x10000 + (high - 0xd800) * 0x400 + (low - 0xdc00))
  else none

/-- The characters of a string up to its closing mark, and what follows it. -/
def readString? : List Char → Option (List Char × List Char)
  | '\"' :: rest => some ([], rest)
  | '\\' :: 'u' :: a :: b :: c :: d :: rest => do
    let n ← hexQuad? a b c d
    if isHighHalf n then
      match rest with
      | '\\' :: 'u' :: e :: f :: g :: h :: rest =>
        let char ← pairOf? n (← hexQuad? e f g h)
        let (chars, rest) ← readString? rest
        return (char :: chars, rest)
      | _ => none
    else
      let char ← charOf? n
      let (chars, rest) ← readString? rest
      return (char :: chars, rest)
  | '\\' :: c :: rest => do
    let char ← escaped? c
    let (chars, rest) ← readString? rest
    return (char :: chars, rest)
  | c :: rest =>
    if c.toNat < 0x20 then none
    else do
      let (chars, rest) ← readString? rest
      return (c :: chars, rest)
  | [] => none

/-! ### Values -/

/-- Whether the digits in front of a point are written without needless
zeros. -/
def wholeIsPlain : List Char → Bool
  | '-' :: text => wholeIsPlain text
  | '0' :: c :: _ => !c.isDigit
  | _ => true

/-- A number at the start of a text. -/
def readNumber? (text : List Char) : Option (Json × List Char) :=
  if wholeIsPlain text then
    (Literal.read? text).map fun (l, rest) => (.number l.nearest, rest)
  else none

mutual

/-- A value at the start of a text.  The first argument bounds how deep values
stand inside each other. -/
def readValue? : (depth : Nat) → List Char → Option (Json × List Char)
  | 0, _ => none
  | depth + 1, text =>
    match skipGap text with
    | 'n' :: 'u' :: 'l' :: 'l' :: rest => some (.null, rest)
    | 't' :: 'r' :: 'u' :: 'e' :: rest => some (.bool true, rest)
    | 'f' :: 'a' :: 'l' :: 's' :: 'e' :: rest => some (.bool false, rest)
    | '\"' :: rest =>
      (readString? rest).map fun (chars, rest) => (.string (String.ofList chars), rest)
    | '[' :: rest =>
      match skipGap rest with
      | ']' :: rest => some (.array [], rest)
      | rest => (readItems? depth rest).map fun (items, rest) => (.array items, rest)
    | '\x7b' :: rest =>
      match skipGap rest with
      | '\x7d' :: rest => some (.object [], rest)
      | rest => (readMembers? depth rest).map fun (members, rest) => (.object members, rest)
    | text => readNumber? text

/-- The items of an array up to its end. -/
def readItems? : (depth : Nat) → List Char → Option (List Json × List Char)
  | 0, _ => none
  | depth + 1, text => do
    let (item, rest) ← readValue? depth text
    match skipGap rest with
    | ']' :: rest => return ([item], rest)
    | ',' :: rest =>
      let (items, rest) ← readItems? depth rest
      return (item :: items, rest)
    | _ => none

/-- The members of an object up to its end. -/
def readMembers? : (depth : Nat) → List Char → Option (List (String × Json) × List Char)
  | 0, _ => none
  | depth + 1, text => do
    let '\"' :: rest := skipGap text | none
    let (name, rest) ← readString? rest
    let ':' :: rest := skipGap rest | none
    let (value, rest) ← readValue? depth rest
    match skipGap rest with
    | '\x7d' :: rest => return ([(String.ofList name, value)], rest)
    | ',' :: rest =>
      let (members, rest) ← readMembers? depth rest
      return ((String.ofList name, value) :: members, rest)
    | _ => none

end

/-- The value that a whole text denotes.  Every level of nesting and every item
takes a character, so the length of the text bounds them. -/
def parse? (text : List Char) : Option Json :=
  match readValue? (text.length + 1) text with
  | some (value, rest) => if skipGap rest = [] then some value else none
  | none => none

end BlockExtent.Json
