import BlockExtent.Log.Directive

/-!
# Which events are shown

A filter is a list of directives between commas.  Of the directives about an event
the closest decides whether the event is shown.

## Main definitions

* `EventFilter.parse?` — reads a filter.
* `EventFilter.closest?` — the directive that decides.
* `EventFilter.permits` — whether an event is shown.
-/

namespace BlockExtent

/-- A filter: its directives, in order. -/
abbrev EventFilter : Type := List Directive

namespace EventFilter

/-- Warnings and errors are shown. -/
def standard : EventFilter := [{ threshold := .atLeast .warn }]

/-- Reads a filter.  Empty directives are passed over; one that makes no sense
spoils the filter. -/
def parse? (text : String) : Option EventFilter :=
  ((text.toList.splitOn ',').filter (· ≠ [])).mapM Directive.parse?

/-- The filter for a text, if there is one: the standard one if there is none, or
if it makes no sense. -/
def ofText (text : Option String) : EventFilter :=
  match text with
  | none => standard
  | some text => (parse? text).getD standard

/-- The directive about an event that decides.  Of equally close ones the last
counts. -/
def closest? (filter : EventFilter) (e : Event) : Option Directive :=
  (filter.filter (·.covers e)).foldl
    (fun found d =>
      match found with
      | none => some d
      | some other => if d.isAsClose other then some d else some other)
    none

/-- Whether an event is shown.  One that no directive is about is not. -/
def permits (filter : EventFilter) (e : Event) : Bool :=
  match filter.closest? e with
  | none => false
  | some d => d.threshold.permits e.severity

end EventFilter

end BlockExtent
