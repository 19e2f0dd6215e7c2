import BlockExtent.Log.Event
import BlockExtent.Text.Alphanumeric
import BlockExtent.Text.Blank
import BlockExtent.Text.ByteRange

/-!
# Directives

A directive says how severe events have to be to be shown, and which events it is
about.  It is a threshold, or a target with or without a threshold:

* `info`
* `target`
* `target=info`
* `target[span]=info`, `target[span{field}]=info`

A target is what the names of components start with.  In brackets stand a span
and a field, each of which can be missing, as can the target.  Events of this
program happen in no span, so that a directive about one is about no event.

## Main definitions

* `Threshold` — a lowest severity, or none at all.
* `Directive` — a threshold and what it is for.
* `Directive.parse?` — reads a directive.
* `Directive.covers` — whether a directive is about an event.
* `Directive.isAsClose` — which of two directives about an event counts.
-/

namespace BlockExtent

/-- The lowest severity that is shown. -/
inductive Threshold where
  /-- Nothing is shown. -/
  | off
  /-- Events of at least this severity are shown. -/
  | atLeast (severity : Severity)
deriving DecidableEq, Repr

namespace Threshold

/-- Whether a severity reaches a threshold. -/
def permits : Threshold → Severity → Bool
  | .off, _ => false
  | .atLeast least, severity => least.rank ≤ severity.rank

/-- The threshold with a number. -/
def ofNumber? : Nat → Option Threshold
  | 0 => some .off
  | 1 => some (.atLeast .error)
  | 2 => some (.atLeast .warn)
  | 3 => some (.atLeast .info)
  | 4 => some (.atLeast .debug)
  | 5 => some (.atLeast .trace)
  | _ => none

/-- The threshold with a name in lower case. -/
def ofName? : String → Option Threshold
  | "off" => some .off
  | "error" => some (.atLeast .error)
  | "warn" => some (.atLeast .warn)
  | "info" => some (.atLeast .info)
  | "debug" => some (.atLeast .debug)
  | "trace" => some (.atLeast .trace)
  | _ => none

/-- The threshold that a text stands for: a number, which may have a plus sign and
zeros in front, or a name regardless of case. -/
def ofText? (text : List Char) : Option Threshold :=
  let digits :=
    match text with
    | '+' :: rest => rest
    | _ => text
  if digits ≠ [] ∧ digits.all Char.isDigit then ofNumber? (Nat.ofDigitChars 10 digits 0)
  else ofName? (String.ofList (text.map Char.toLower))

end Threshold

/-- A field that a directive asks for. -/
structure FieldCondition where
  /-- The name of the field. -/
  name : String
  /-- Whether it has to have a certain value, which only spans are asked for. -/
  valued : Bool
deriving DecidableEq, Repr

/-- The field that a text in braces asks for: a name, or a name and a value with
`=` between them. -/
def FieldCondition.ofText (text : List Char) : FieldCondition where
  name := String.ofList (text.takeWhile (· ≠ '='))
  valued := text.contains '='

/-- A threshold and what it is for. -/
structure Directive where
  /-- What the names of the components start with; all components if none. -/
  target : Option String := none
  /-- The span that events happen in; none need be if there is none. -/
  span : Option String := none
  /-- The field that events have, if any is asked for. -/
  field : Option FieldCondition := none
  /-- The lowest severity shown, which is the lowest of all by itself. -/
  threshold : Threshold := .atLeast .trace
deriving DecidableEq, Repr

namespace Directive

/-! ### Reading a directive

The parts of a directive are found in its text without the blanks at its ends, and
are cut out of the whole text at the positions where they were found.  A blank in
front thus counts as a part of the target, and one behind as a part of the
threshold, which then makes no sense. -/

/-- Whether a target can start with a character. -/
def startsTarget (c : Char) : Bool :=
  isAlphanumeric c || c == '_' || c == '-' || c == ':'

variable (text : List Char)

/-- The threshold from a position of the text on.  If nothing is there, it is the
lowest. -/
def thresholdFrom? (position : Nat) : Option Threshold := do
  let level ← dropBytes position text
  if level = [] then return .atLeast .trace else Threshold.ofText? level

/-- The directive when `rest`, which is at a position, is what follows its
brackets. -/
def afterBrackets? (d : Directive) (position : Nat) (rest : List Char) : Option Directive :=
  match rest with
  | [] => some d
  | '=' :: _ => do return { d with threshold := ← thresholdFrom? text (position + 1) }
  | _ => none

/-- The directive when `rest`, which is at a position, is what follows the brace in
its brackets. -/
def afterBrace? (d : Directive) (position : Nat) (rest : List Char) : Option Directive :=
  let inner := rest.takeWhile (· ≠ '\x7d')
  match rest.drop inner.length with
  | _ :: ']' :: after => do
    let field ← byteRange? position (byteLength inner) text
    if field = [] then none
    else
      afterBrackets? text { d with field := some (.ofText field) }
        (position + byteLength inner + 2) after
  | _ => none

/-- The directive when `rest`, which is at a position, is what follows the bracket
that opens. -/
def afterBracket? (d : Directive) (position : Nat) (rest : List Char) : Option Directive := do
  let inner := rest.takeWhile fun c => c ≠ ']' ∧ c ≠ '\x7b'
  let name ← byteRange? position (byteLength inner) text
  let stop := position + byteLength inner
  match rest.drop inner.length with
  | ']' :: after =>
    afterBrackets? text { d with span := some (String.ofList name) } (stop + 1) after
  | '\x7b' :: after =>
    let span := if name = [] then none else some (String.ofList name)
    afterBrace? text { d with span } (stop + 1) after
  | _ => none

/-- The directive of a text that is a threshold or a target. -/
def ofWord : Directive :=
  match Threshold.ofText? text with
  | some threshold => { threshold }
  | none => { target := some (String.ofList text) }

/-- The directive of a text whose target starts `body`. -/
def withTarget? (body : List Char) : Option Directive :=
  let name := body.takeWhile fun c => c ≠ '=' ∧ c ≠ '['
  let stop := byteLength name
  match body.drop name.length with
  | [] => some (ofWord text)
  | mark :: after => do
    let target := some (String.ofList (← takeBytes stop text))
    if mark = '=' then return { target, threshold := ← thresholdFrom? text (stop + 1) }
    else afterBracket? text { target } (stop + 1) after

/-- Reads a directive. -/
def parse? : Option Directive :=
  match trimBlank text with
  | [] => none
  | '[' :: after => afterBracket? text {} 1 after
  | c :: rest => if startsTarget c then withTarget? text (c :: rest) else none

/-! ### What a directive is about -/

/-- Whether a directive is about an event. -/
def covers (d : Directive) (e : Event) : Bool :=
  d.span.isNone
    && d.field.all (fun field => !field.valued && e.hasField field.name)
    && d.target.all fun target => target.toList.isPrefixOf e.component.target.toList

/-- How narrow a target is: the longer, the narrower. -/
def targetRank (d : Directive) : Nat :=
  match d.target with
  | none => 0
  | some target => target.utf8ByteSize + 1

/-- Whether a field is at least as narrow as another one.  Any is narrower than
none; two are told apart by their names. -/
def fieldIsAsClose : Option FieldCondition → Option FieldCondition → Bool
  | _, none => true
  | none, some _ => false
  | some field, some other => other.name ≤ field.name

/-- Whether a directive is at least as close to the events that it shares with
another one: by its target, then by its field. -/
def isAsClose (d other : Directive) : Bool :=
  other.targetRank < d.targetRank
    || (other.targetRank == d.targetRank && fieldIsAsClose d.field other.field)

end Directive

end BlockExtent
