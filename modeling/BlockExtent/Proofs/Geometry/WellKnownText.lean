import BlockExtent.Geometry.PolygonReader
import BlockExtent.Proofs.Number.General
import BlockExtent.Proofs.Result

/-!
# Well-known text reads back

The well-known text of a rectangle splits at its commas into the positions of the ring, and each
position at its blank into two numbers, since numbers are written without either.  Every number
is read as itself, so the text settles the ring.

## Main definitions

* `BlockRectangle.IsNumeric` — the rectangles with four numbers as their edges.
* `WritesNumber`, `WritesPosition`, `WritesRing` — what is asked of the texts of a number, of a
  position and of a ring.

## Main results

* `BlockRectangle.wellKnownText_writesRing` — how the text splits, and what its parts say.
* `WritesRing.readPolygon?_eq` — such a text is read as the ring.
* `BlockRectangle.wellKnownText_faithful` — **the text of a rectangle settles its ring.**
-/

namespace BlockExtent

/-- Each edge of a rectangle is a number, be it finite or not. -/
structure BlockRectangle.IsNumeric (r : BlockRectangle Float) : Prop where
  xMin : r.xMin.isNaN = false
  yMin : r.yMin.isNaN = false
  xMax : r.xMax.isNaN = false
  yMax : r.yMax.isNaN = false

/-- The positions of the ring of such a rectangle are numbers. -/
theorem BlockRectangle.IsNumeric.of_mem_ring {r : BlockRectangle Float} (h : r.IsNumeric) :
    ∀ p ∈ r.ring, p.1.isNaN = false ∧ p.2.isNaN = false := by
  unfold ring
  simp only [List.forall_mem_cons, List.not_mem_nil, false_implies, implies_true, and_true]
  exact ⟨⟨h.xMin, h.yMin⟩, ⟨h.xMin, h.yMax⟩, ⟨h.xMax, h.yMax⟩, ⟨h.xMax, h.yMin⟩, h.xMin, h.yMin⟩

/-- What is asked of the text of a number.  It is without the separators of positions, it is read
as the number, and if the number is finite, what it denotes is nearer to it than to any
other. -/
structure WritesNumber (text : List Char) (x : Float) : Prop where
  ne_separator : ∀ c ∈ text, c ≠ ' ' ∧ c ≠ ','
  reads : readNumber? text = some x
  singlesOut : x.isFinite = true → ∃ l, Literal.read? text = some (l, []) ∧ l.SinglesOut x

/-- What is asked of the text of a position: it is two numbers with a blank between them. -/
def WritesPosition (text : List Char) (p : Float × Float) : Prop :=
  ∃ x y, text.splitOn ' ' = [x, y] ∧ WritesNumber x p.1 ∧ WritesNumber y p.2

/-- What is asked of the text of a ring: it is a polygon without inner rings, and the positions
of the ring stand between its commas. -/
def WritesRing (text : String) (ring : List (Float × Float)) : Prop :=
  ∃ inner, text.toList = "POLYGON((".toList ++ inner ++ "))".toList
    ∧ List.Forall₂ WritesPosition (inner.splitOn ',') ring

/-! ### Writing -/

section Writing

variable {x : Float} {p : Float × Float}

/-- The precision of the coordinates is a signed word. -/
theorem wktPrecision_lt : wktPrecision < 2 ^ 31 := by decide

theorem writesNumber_generalText (hnan : x.isNaN = false) :
    WritesNumber (generalText x wktPrecision).toList x where
  ne_separator := ne_separator_of_mem_generalText x wktPrecision_lt
  reads := readNumber?_generalText le_rfl wktPrecision_lt hnan
  singlesOut hfinite := by
    have hprecision : 18 ≤ wktPrecision := le_rfl
    obtain ⟨l, hread, hsingle, -⟩ := generalText_singlesOut hprecision wktPrecision_lt hfinite
    exact ⟨l, hread, hsingle⟩

/-- A position is written with one blank. -/
theorem toList_positionText (p : Float × Float) :
    (positionText p).toList = [' '].intercalate
      [(generalText p.1 wktPrecision).toList, (generalText p.2 wktPrecision).toList] := by
  unfold positionText
  rw [String.toList_append, String.toList_append]
  simp [List.intercalate]

theorem comma_notMem_positionText (p : Float × Float) : ',' ∉ (positionText p).toList := by
  have hnumber : ∀ x : Float, ',' ∉ (generalText x wktPrecision).toList := fun x hmem =>
    (ne_separator_of_mem_generalText x wktPrecision_lt ',' hmem).2 rfl
  unfold positionText
  rw [String.toList_append, String.toList_append, List.mem_append, List.mem_append]
  rintro ((hmem | hmem) | hmem)
  · exact hnumber p.1 hmem
  · exact absurd hmem (by decide)
  · exact hnumber p.2 hmem

theorem writesPosition_positionText (hp : p.1.isNaN = false ∧ p.2.isNaN = false) :
    WritesPosition (positionText p).toList p := by
  refine ⟨_, _, ?_, writesNumber_generalText hp.1, writesNumber_generalText hp.2⟩
  rw [toList_positionText]
  refine List.splitOn_intercalate ' ' ?_ (List.cons_ne_nil _ _)
  have hnumber : ∀ x : Float, ' ' ∉ (generalText x wktPrecision).toList := fun x hmem =>
    (ne_separator_of_mem_generalText x wktPrecision_lt ' ' hmem).1 rfl
  exact List.forall_mem_cons.mpr ⟨hnumber p.1, List.forall_mem_singleton.mpr (hnumber p.2)⟩

/-- **The text of a rectangle splits into the positions of its ring.** -/
theorem BlockRectangle.wellKnownText_writesRing {r : BlockRectangle Float} (h : r.IsNumeric) :
    WritesRing r.wellKnownText r.ring := by
  refine ⟨[','].intercalate (r.ring.map fun p => (positionText p).toList), ?_, ?_⟩
  · unfold wellKnownText
    rw [String.toList_append, String.toList_append, String.toList_intercalate, List.map_map]
    rfl
  · have hcomma : ∀ text ∈ r.ring.map fun p => (positionText p).toList, ',' ∉ text := by
      intro text htext
      obtain ⟨p, -, rfl⟩ := List.mem_map.mp htext
      exact comma_notMem_positionText p
    rw [List.splitOn_intercalate ',' hcomma (by simp [ring]), List.forall₂_map_left_iff,
      List.forall₂_same]
    exact fun p hp => writesPosition_positionText (h.of_mem_ring p hp)

end Writing

/-! ### Reading -/

theorem WritesPosition.readPosition?_eq {text : List Char} {p : Float × Float}
    (h : WritesPosition text p) : readPosition? text = some p := by
  obtain ⟨x, y, hsplit, hx, hy⟩ := h
  unfold readPosition?
  rw [hsplit]
  dsimp only
  rw [hx.reads, hy.reads]
  rfl

/-- What stands between two texts that are around it. -/
theorem between?_append (before inner after : List Char) :
    between? before after (before ++ inner ++ after) = some inner := by
  have hfront : before.isPrefixOf (before ++ inner ++ after) = true := by
    rw [List.isPrefixOf_iff_prefix, List.append_assoc]
    exact List.prefix_append _ _
  have hback : after.isSuffixOf (before ++ inner ++ after) = true :=
    List.isSuffixOf_iff_suffix.mpr (List.suffix_append _ _)
  have hlength : (before ++ inner ++ after).length
      = before.length + inner.length + after.length := by
    rw [List.length_append, List.length_append]
  unfold between?
  rw [if_pos ⟨hfront, hback, by omega⟩, hlength, List.append_assoc, List.drop_left]
  congr 1
  rw [show before.length + inner.length + after.length - before.length - after.length
    = inner.length by omega, List.take_left]

/-- **What writes a ring is read as the ring.** -/
theorem WritesRing.readPolygon?_eq {text : String} {ring : List (Float × Float)}
    (h : WritesRing text ring) : readPolygon? text = some ring := by
  obtain ⟨inner, htext, hpositions⟩ := h
  unfold readPolygon?
  rw [htext, between?_append]
  exact mapM_eq_pure (hpositions.imp fun _ _ hposition => hposition.readPosition?_eq)

/-- **The text of a rectangle settles its ring.**  It is a polygon of five positions, each number
of which denotes what is nearer to it than to any other.  It is read as the ring, number by
number, so rectangles with different rings have different texts. -/
theorem BlockRectangle.wellKnownText_faithful {r : BlockRectangle Float} (h : r.IsNumeric) :
    WritesRing r.wellKnownText r.ring
      ∧ readPolygon? r.wellKnownText = some r.ring
      ∧ ∀ r' : BlockRectangle Float, r'.IsNumeric → r'.ring ≠ r.ring →
        r'.wellKnownText ≠ r.wellKnownText := by
  have hwrites := wellKnownText_writesRing h
  refine ⟨hwrites, hwrites.readPolygon?_eq, fun r' h' hne htext => hne ?_⟩
  have hread := (wellKnownText_writesRing h').readPolygon?_eq
  rw [htext, hwrites.readPolygon?_eq] at hread
  exact (Option.some.inj hread).symm

/-- A rectangle from minus zero to a number of seventeen digits, and from the smallest positive
number to infinity. -/
def extremeRectangle : BlockRectangle Float where
  level := 0
  column := 0
  row := 0
  xMin := Float.ofBits 0x8000000000000000
  yMin := Float.ofBits 1
  xMax := Float.ofBits 0x3fd3333333333334
  yMax := Float.ofBits 0x7ff0000000000000

/-- The text of such a rectangle, which is read as its ring and is not that of the rectangle that
begins at zero. -/
theorem BlockRectangle.wellKnownText_faithful_extremes :
    extremeRectangle.wellKnownText
        = "POLYGON((-0 4.94065645841246544e-324,-0 inf,0.300000000000000044 inf,"
          ++ "0.300000000000000044 4.94065645841246544e-324,-0 4.94065645841246544e-324))"
      ∧ readPolygon? extremeRectangle.wellKnownText = some extremeRectangle.ring
      ∧ { extremeRectangle with xMin := Float.ofBits 0 }.wellKnownText
        ≠ extremeRectangle.wellKnownText := by
  have hnumeric : extremeRectangle.IsNumeric := ⟨by decide, by decide, by decide, by decide⟩
  have hzero : IsNumeric { extremeRectangle with xMin := Float.ofBits 0 } :=
    ⟨by decide, by decide, by decide, by decide⟩
  obtain ⟨-, hread, hdiffers⟩ := wellKnownText_faithful hnumeric
  exact ⟨by decide +kernel, hread, hdiffers _ hzero (by decide)⟩

end BlockExtent
