import BlockExtent.GeoJson.Dataset
import BlockExtent.Proofs.Json.Values
import BlockExtent.Proofs.Run.Execution

/-!
# Feature collections read back

A layer is put together from a head, one line for each feature, and an end.  The
text is one object all the same, and a reader who knows what a layer looks like
gets back all that was written: the name, the EPSG code, and the rings.

## Main definitions

* `Layer` — what a reader gets from the document of a layer.
* `Layer.ofJson?` — reads the document of a layer.
* `Layer.written` — what a writer puts into it.

## Main results

* `reads_collection` — the text of a layer is read as one object.
* `ofJson?_collection` — the object is read as the layer.
* `collection_roundTrip` — a layer is read back from its text.
-/

namespace BlockExtent.GeoJson

open Json

/-! ### Reading a layer -/

/-- A position whose coordinates may be missing. -/
abbrev WrittenPosition : Type := Option Float × Option Float

/-- What a reader gets from the document of a layer. -/
structure Layer where
  /-- The name of the layer. -/
  name : String
  /-- The EPSG code of its spatial reference, if one is given. -/
  code : Option Nat
  /-- The ring of each feature, in order. -/
  rings : List (List WrittenPosition)

/-- A coordinate, which is missing where `null` stands. -/
def coordinate? : Json → Option (Option Float)
  | .number x => some (some x)
  | .null => some none
  | _ => none

/-- A position with two coordinates. -/
def position? : Json → Option WrittenPosition
  | .array [x, y] => return (← coordinate? x, ← coordinate? y)
  | _ => none

/-- The positions of a ring. -/
def ring? : Json → Option (List WrittenPosition)
  | .array positions => positions.mapM position?
  | _ => none

/-- The ring of a polygon that has only one. -/
def polygonRing? (geometry : Json) : Option (List WrittenPosition) :=
  match geometry.member? "type", geometry.member? "coordinates" with
  | some (.string "Polygon"), some (.array [ring]) => ring? ring
  | _, _ => none

/-- The ring of a feature that has no properties. -/
def featureRing? (feature : Json) : Option (List WrittenPosition) :=
  match feature.member? "type", feature.member? "properties", feature.member? "geometry" with
  | some (.string "Feature"), some (.object []), some geometry => polygonRing? geometry
  | _, _, _ => none

/-- The EPSG code in the name of a reference. -/
def codeOfName? (name : String) : Option Nat := do
  let digits ← name.toList.dropPrefix? "urn:ogc:def:crs:EPSG::".toList
  let (digits, []) ← readDigits? digits | none
  return Nat.ofDigitChars 10 digits 0

/-- The EPSG code of a named reference. -/
def referenceCode? (reference : Json) : Option Nat :=
  match reference.member? "type", (reference.member? "properties").bind (member? "name") with
  | some (.string "name"), some (.string name) => codeOfName? name
  | _, _ => none

/-- The EPSG code of a document, where a document without a reference has
none. -/
def documentCode? (document : Json) : Option (Option Nat) :=
  match document.member? "crs" with
  | none => some none
  | some reference => (referenceCode? reference).map some

/-- Reads the document of a layer. -/
def Layer.ofJson? (document : Json) : Option Layer :=
  match document.member? "type", document.member? "name", document.member? "features" with
  | some (.string "FeatureCollection"), some (.string name), some (.array features) => do
    return { name, code := ← documentCode? document, rings := ← features.mapM featureRing? }
  | _, _, _ => none

/-! ### Writing a layer -/

/-- The EPSG code that is written: none for the default one. -/
def writtenCode (reference : Option SpatialReference) : Option Nat :=
  match reference with
  | some (.epsg code) => if code = 4326 then none else some code
  | _ => none

/-- A coordinate is written if it is finite. -/
def writtenCoordinate (x : Float) : Option Float := if x.isFinite then some x else none

/-- The ring that is written for a block. -/
def writtenRing (block : BlockRectangle Float) : List WrittenPosition :=
  block.ring.map fun p => (writtenCoordinate p.1, writtenCoordinate p.2)

/-- What is written of a layer. -/
def Layer.written (name : String) (reference : Option SpatialReference)
    (blocks : List (BlockRectangle Float)) : Layer where
  name := name
  code := writtenCode reference
  rings := blocks.map writtenRing

/-! ### The text is one object -/

/-- The document of a layer. -/
def collectionOf (name : String) (reference : Option SpatialReference)
    (blocks : List (BlockRectangle Float)) : Json :=
  .object (headMembers name reference ++ [("features", .array (blocks.map featureOf))])

theorem commaSeparated_append_singleton {texts : List (List Char)} (hne : texts ≠ [])
    (text : List Char) :
    commaSeparated (texts ++ [text]) = commaSeparated texts ++ ',' :: text := by
  induction texts with
  | nil => exact absurd rfl hne
  | cons first texts ih =>
    cases texts with
    | nil => simp [commaSeparated]
    | cons second texts =>
      have hstep := ih (by simp)
      simp only [List.cons_append, commaSeparated] at hstep ⊢
      rw [hstep, List.append_assoc, List.cons_append]

/-- Features are separated by commas, and a line break is put in front of each. -/
theorem featureLines_eq (blocks : List (BlockRectangle Float)) :
    featureLines blocks
      = commaSeparated (blocks.map fun block => '\n' :: (featureOf block).text) := by
  induction blocks with
  | nil => rfl
  | cons block blocks ih =>
    cases blocks with
    | nil => simp [featureLines, commaSeparated]
    | cons block' blocks =>
      rw [featureLines, ih]
      · simp [commaSeparated]
      · simp

private theorem reads_featureLines (blocks : List (BlockRectangle Float)) :
    List.Forall₂ Reads (blocks.map fun block => '\n' :: (featureOf block).text)
      (writtenItems (blocks.map featureOf)) := by
  induction blocks with
  | nil => exact .nil
  | cons block blocks ih =>
    have hgap : IsGap ['\n'] := by simp [IsGap, isGap]
    exact .cons ((reads_text (featureOf block)).gap_append hgap) ih

theorem writtenMembers_append (members others : List (String × Json)) :
    writtenMembers (members ++ others) = writtenMembers members ++ writtenMembers others := by
  induction members with
  | nil => rfl
  | cons member members ih =>
    obtain ⟨name, value⟩ := member
    simp only [List.cons_append, writtenMembers, ih]

/-- **The text of a layer is read as one object**, up to the line break that ends
it. -/
theorem reads_collection (name : String) (reference : Option SpatialReference)
    (blocks : List (BlockRectangle Float)) :
    ∃ body, collectionText name reference blocks = body ++ ['\n']
      ∧ Reads body (collectionOf name reference blocks).written := by
  have hgap : IsGap ['\n'] := by simp [IsGap, isGap]
  have hfeatures := Reads.array (reads_featureLines blocks) hgap
  have hmembers : List.Forall₂ ReadsMember
      (memberTexts (headMembers name reference)
        ++ [stringText "features" ++ ':' :: '[' :: (commaSeparated
          (blocks.map fun block => '\n' :: (featureOf block).text) ++ ['\n'] ++ [']'])])
      (writtenMembers
        (headMembers name reference ++ [("features", .array (blocks.map featureOf))])) := by
    rw [writtenMembers_append]
    refine List.rel_append (readsMember_memberTexts _) (.cons ⟨_, rfl, ?_⟩ .nil)
    rw [written]
    exact hfeatures
  refine ⟨_, ?_, Reads.object hmembers⟩
  -- the head ends in a comma since there always is a member before the features
  have hhead : memberTexts (headMembers name reference) ≠ [] := by
    simp [headMembers, memberTexts]
  rw [commaSeparated_append_singleton hhead, ← featureLines_eq]
  unfold collectionText
  simp

/-! ### The object is the layer -/

theorem codeOfName?_referenceName (code : ℕ) : codeOfName? (referenceName code) = some code := by
  have htext : (referenceName code).toList
      = "urn:ogc:def:crs:EPSG::".toList ++ Nat.toDigits 10 code := by
    unfold referenceName
    rw [String.toList_append, Nat.toString_eq_ofList_toDigits, String.toList_ofList]
    rfl
  have hend : ∀ c ∈ ([] : List Char).head?, c.isDigit = false := by simp
  have hread := readDigits?_append (isDigits_toDigits code) hend
  rw [List.append_nil] at hread
  unfold codeOfName?
  rw [htext, List.dropPrefix?_append_of_beq _ (by simp)]
  simp only [Option.bind_eq_bind, Option.bind_some, hread, Nat.ofDigitChars_ten_toDigits]
  rfl

/-- A coordinate is read as what was written of it. -/
theorem coordinate?_written (x : Float) :
    coordinate? (Json.number x).written = some (writtenCoordinate x) := by
  rw [Json.written]
  unfold writtenCoordinate
  split <;> rfl

/-- Items that can be read one by one are read from an array of them. -/
private theorem mapM_writtenItems {α β : Type} {toJson : α → Json} {read : Json → Option β}
    {f : α → β} (h : ∀ a, read (toJson a).written = some (f a)) (as : List α) :
    (writtenItems (as.map toJson)).mapM read = some (as.map f) := by
  induction as with
  | nil => rfl
  | cons a as ih =>
    rw [List.map_cons, writtenItems, List.mapM_cons, h, ih]
    rfl

theorem position?_positionOf (p : Float × Float) :
    position? (positionOf p).written = some (writtenCoordinate p.1, writtenCoordinate p.2) := by
  unfold positionOf
  rw [Json.written, writtenItems, writtenItems, writtenItems]
  simp only [position?, coordinate?_written]
  rfl

/-- The ring of a block is read from its feature. -/
theorem featureRing?_featureOf (block : BlockRectangle Float) :
    featureRing? (featureOf block).written = some (writtenRing block) := by
  have hring := mapM_writtenItems position?_positionOf block.ring
  unfold featureOf writtenRing
  simp only [Json.written, writtenMembers, writtenItems]
  exact hring

/-- The member that names the spatial reference is there for the codes that are
written. -/
theorem referenceMember?_eq (reference : Option SpatialReference) :
    referenceMember? reference = (writtenCode reference).map fun code =>
      .object
        [("properties", .object [("name", .string (referenceName code))]),
          ("type", .string "name")] := by
  rcases reference with _ | code | text
  · rfl
  · by_cases hdefault : code = 4326
    · simp [referenceMember?, writtenCode, SpatialReference.epsg?, defaultCode, hdefault]
    · simp [referenceMember?, writtenCode, SpatialReference.epsg?, defaultCode, hdefault]
  · rfl

/-- **The object of a layer is read as the layer.** -/
theorem ofJson?_collection (name : String) (reference : Option SpatialReference)
    (blocks : List (BlockRectangle Float)) :
    Layer.ofJson? (collectionOf name reference blocks).written
      = some (Layer.written name reference blocks) := by
  have hrings := mapM_writtenItems featureRing?_featureOf blocks
  unfold collectionOf headMembers Layer.written
  rw [referenceMember?_eq reference, Json.written]
  cases writtenCode reference with
  | none =>
    simp only [Option.map_none, Option.toList_none, List.append_nil, List.cons_append,
      List.nil_append, writtenMembers, Json.written]
    simp [Layer.ofJson?, documentCode?, member?, List.lookup_cons, hrings]
  | some code =>
    simp only [Option.map_some, Option.toList_some, List.cons_append, List.nil_append,
      writtenMembers, Json.written]
    simp [Layer.ofJson?, documentCode?, referenceCode?, member?, List.lookup_cons, hrings,
      codeOfName?_referenceName]

/-! ### A layer and its text -/

/-- The text of a layer is one document, which is read as the layer. -/
theorem parse?_collectionText (name : String) (reference : Option SpatialReference)
    (blocks : List (BlockRectangle Float)) :
    ∃ document, parse? (collectionText name reference blocks) = some document
      ∧ Layer.ofJson? document = some (Layer.written name reference blocks) := by
  obtain ⟨body, htext, hreads⟩ := reads_collection name reference blocks
  refine ⟨_, ?_, ofJson?_collection name reference blocks⟩
  rw [htext]
  exact hreads.parse?_append (by simp [IsGap, isGap])

/-- **A layer is read back from its text.**  The text is one value and a line break,
and what is read from it is what was written: the name, the EPSG code unless it is
the default one, and a closed ring of five positions for each block, in order.  The
number of blocks is given back wherever the text can be written. -/
theorem collection_roundTrip (name : String) (reference : Option SpatialReference)
    (blocks : List (BlockRectangle Float)) :
    (∃ body document, collectionText name reference blocks = body ++ ['\n']
        ∧ readValue? (body.length + 1) body = some (document, [])
        ∧ parse? (collectionText name reference blocks) = some document
        ∧ Layer.ofJson? document = some (Layer.written name reference blocks))
      ∧ (∀ block, (writtenRing block).length = 5
        ∧ (writtenRing block).head? = (writtenRing block).getLast?)
      ∧ ∀ (σ : Type) (store : FileStore (StateM σ)) (handle : store.Handle) (s : σ),
        (writeCollection store handle name reference blocks).outcome s =
          match store.append handle
            (String.ofList (collectionText name reference blocks)).toUTF8 s with
          | (.ok (), s') => ((.ok blocks.length, []), s')
          | (.error cause, s') => ((.error (.file cause), []), s') := by
  obtain ⟨body, htext, hreads⟩ := reads_collection name reference blocks
  refine ⟨⟨body, _, htext, ?_, ?_, ofJson?_collection name reference blocks⟩, ?_, ?_⟩
  · have hstop : StopsNumber [] := by simp [StopsNumber]
    simpa using hreads (body.length + 1) [] (Nat.lt_succ_self _) hstop
  · rw [htext]
    exact hreads.parse?_append (by simp [IsGap, isGap])
  · intro block
    exact ⟨rfl, rfl⟩
  · intro σ store handle s
    unfold writeCollection bytesOf
    rw [Run.outcome_eq_exec, Run.exec_bind, Run.exec_attempt]
    rcases store.append handle (String.ofList (collectionText name reference blocks)).toUTF8 s with
      ⟨_ | _, s'⟩ <;> rfl

end BlockExtent.GeoJson
