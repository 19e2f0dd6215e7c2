import BlockExtent.Log.Event
import BlockExtent.Number.FloatStyle
import BlockExtent.Text.Quoted

/-!
# Events as lines of text

## Main definitions

* `logNumber` — how numbers are written in a line.
* `visibleControls` — a message with its terminal controls made visible.
* `Event.line` — the line of an event: `LEVEL message key=value …`.
-/

namespace BlockExtent

/-- Numbers in log lines are written plainly from `10 ^ (-4)` up to below
`10 ^ 16`, with no sign on a positive exponent. -/
def logNumber : FloatStyle where
  plainFrom := -4
  plainTo := 15
  plusSign := false
  tie := .up

/-- The text of a number in a line. -/
def numberText (x : Float) : String :=
  match Binary64.ofFloat x with
  | .nan => "NaN"
  | .infinite negative => if negative then "-inf" else "inf"
  | .finite negative mantissa exponent =>
    String.ofList (logNumber.text negative mantissa exponent)

/-- A control that a terminal would act on, written by its code. -/
def visibleControl (c : Char) : List Char :=
  if c = '\x1b' ∨ c = '\x07' ∨ c = '\x08' ∨ c = '\x0c' ∨ c = '\x7f' then
    ['\\', 'x'] ++ hexDigitsPadded 2 c.toNat
  else if 0x80 ≤ c.toNat ∧ c.toNat ≤ 0x9f then
    ['\\', 'u', '\x7b'] ++ hexDigits c.toNat ++ ['\x7d']
  else [c]

/-- Text with its terminal controls made visible. -/
def visibleControls (s : String) : String :=
  String.ofList (s.toList.flatMap visibleControl)

/-- The text of a recorded value. -/
def FieldValue.text : FieldValue → String
  | .count n => toString n
  | .number x => numberText x
  | .plain text => text
  | .quoted text => quotedText text
  | .absent => ""

/-- The line of an event, without the time.  Fields without a value are left
out. -/
def Event.line (e : Event) : String :=
  String.intercalate " "
    (e.severity.name :: visibleControls e.message
      :: e.presentFields.map fun field => field.1 ++ "=" ++ field.2.text)

end BlockExtent
