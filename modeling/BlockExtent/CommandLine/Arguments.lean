import BlockExtent.Run.Failure
import BlockExtent.Raster.LevelChoice
import BlockExtent.Text.Blank

/-!
# Command line arguments

The arguments are read from left to right: `-f` and `-ovr` take the argument
that follows them, whatever it looks like, and of a repeated option the last one
counts.  An argument that starts with a dash is no file name.

## Main definitions

* `Settings` — what a run is asked to do.
* `Request` — a conversion, or the usage text.
* `Request.parse` — reads the arguments.
* `usage` — the usage text.
-/

namespace BlockExtent

/-- How to call the program. -/
def usage : String :=
  "Usage:  tile_extent_from_raster [-f format] [-ovr level] <in-raster> <out-vector>"

/-- What a run is asked to do. -/
structure Settings where
  /-- The path of the raster. -/
  input : String
  /-- The path of the vector dataset. -/
  output : String
  /-- The output driver, to be inferred from `output` when there is none. -/
  format : Option String
  /-- The levels to write. -/
  choice : LevelChoice
deriving DecidableEq, Repr, Inhabited

/-- What the arguments ask for. -/
inductive Request where
  /-- A conversion. -/
  | convert (settings : Settings)
  /-- The usage text, since the arguments make no sense. -/
  | help
deriving DecidableEq, Repr

/-- The integer that a text of an optional sign and digits denotes, if a signed
32-bit word can hold it. -/
def signedWord32? (text : List Char) : Option Int :=
  let (negative, digits) :=
    match text with
    | '-' :: rest => (true, rest)
    | '+' :: rest => (false, rest)
    | _ => (false, text)
  if digits = [] ∨ digits.all Char.isDigit = false then none
  else
    let magnitude : Int := Nat.ofDigitChars 10 digits 0
    let value := if negative then -magnitude else magnitude
    if -(wordCount 31 : Int) ≤ value ∧ value < wordCount 31 then some value else none

/-- What has been read of the arguments so far. -/
structure Draft where
  /-- The first file name. -/
  input : Option String := none
  /-- The second file name. -/
  output : Option String := none
  /-- The last format. -/
  format : Option String := none
  /-- The last choice of levels. -/
  choice : LevelChoice := .all

namespace Request

/-- Whether an argument looks like an option. -/
def isFlag (argument : String) : Bool := argument.toList.head? == some '-'

/-- The choice of a level by the text that stands for it. -/
def levelOf (argument : String) : Except Failure LevelChoice :=
  match signedWord32? (trimBlank argument.toList) with
  | some level => .ok (.single level)
  | none => .error (.levelNotAnInteger argument)

/-- The request that a draft amounts to at the end of the arguments. -/
def ofDraft (draft : Draft) : Request :=
  match draft.input, draft.output with
  | some input, some output => .convert ⟨input, output, draft.format, draft.choice⟩
  | _, _ => .help

/-- Reads the arguments that remain. -/
def parseFrom (draft : Draft) : List String → Except Failure Request
  | [] => .ok (ofDraft draft)
  | "-f" :: [] => .ok .help
  | "-f" :: value :: rest => parseFrom { draft with format := some value } rest
  | "-ovr" :: [] => .ok .help
  | "-ovr" :: value :: rest =>
    match levelOf value with
    | .error cause => .error cause
    | .ok choice => parseFrom { draft with choice } rest
  | argument :: rest =>
    if isFlag argument then .ok .help
    else if draft.input.isNone then parseFrom { draft with input := some argument } rest
    else if draft.output.isNone then parseFrom { draft with output := some argument } rest
    else .ok .help

/-- Reads the arguments after the program's name.  The only error is a level
that is no integer. -/
def parse (arguments : List String) : Except Failure Request :=
  parseFrom {} arguments

end Request

end BlockExtent
