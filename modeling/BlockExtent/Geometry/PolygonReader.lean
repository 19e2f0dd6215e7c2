import BlockExtent.Geometry.WellKnownText
import BlockExtent.Number.Literal

/-!
# Reading polygons

## Main definitions

* `readPosition?` — the position that a text of two numbers denotes.
* `readPolygon?` — the positions of the outer ring of a polygon's well-known
  text.
-/

namespace BlockExtent

/-- The position that two numbers with a blank between them denote. -/
def readPosition? (text : List Char) : Option (Float × Float) :=
  match text.splitOn ' ' with
  | [x, y] => do return (← readNumber? x, ← readNumber? y)
  | _ => none

/-- What stands between two texts. -/
def between? (before after text : List Char) : Option (List Char) :=
  if before.isPrefixOf text ∧ after.isSuffixOf text
      ∧ before.length + after.length ≤ text.length then
    some ((text.drop before.length).take (text.length - before.length - after.length))
  else none

/-- The positions of a polygon with an outer ring only. -/
def readPolygon? (text : String) : Option (List (Float × Float)) := do
  let inner ← between? "POLYGON((".toList "))".toList text.toList
  (inner.splitOn ',').mapM readPosition?

end BlockExtent
