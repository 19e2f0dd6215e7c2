import BlockExtent.Proofs.Tiff.Fields
import BlockExtent.Proofs.Tiff.Layout

/-!
# Directories read back

A directory is written behind the payloads of its fields.  Reading it finds every
field with the value that was written.

## Main definitions

* `payloads`, `directoryBytes` — what is written of the fields of a directory.
* `fieldOf?` — the data of a tag among fields.
* `tagNumbers` — the numbers that tags are written as.
* `fieldsOf` — the fields of a table.

## Main results

* `Directory.read_directoryBytes` — a directory is read from its bytes.
* `Directory.field?_eq` — its fields are those that were written.
* `fieldOf?_fieldsOf` — the fields of a table are those that the table has.
-/

namespace BlockExtent.Tiff

/-! ### Directories -/

/-- What stands in front of a directory, the payloads of its fields. -/
def payloads (fields : List Field) : List UInt8 := fields.flatMap fun field => field.data.payload

@[simp] theorem payloads_cons (field : Field) (fields : List Field) :
    payloads (field :: fields) = field.data.payload ++ payloads fields :=
  rfl

theorem payloads_append (before after : List Field) :
    payloads (before ++ after) = payloads before ++ payloads after :=
  List.flatMap_append

/-- The bytes of the entry of a field whose payload stands at a position. -/
def entryBytes (position : Nat) (field : Field) : List UInt8 :=
  littleBytes 2 field.tag ++ (littleBytes 2 field.data.code
    ++ (littleBytes 4 field.data.count ++ field.data.slot position))

/-- The bytes of entries whose payloads stand from a position on. -/
def entriesBytes : (position : Nat) → List Field → List UInt8
  | _, [] => []
  | position, field :: fields =>
    entryBytes position field ++ entriesBytes (position + field.data.payload.length) fields

/-- The entries themselves. -/
def entriesOf : (position : Nat) → List Field → List Entry
  | _, [] => []
  | position, field :: fields =>
    entryOf position field :: entriesOf (position + field.data.payload.length) fields

/-- The bytes of a directory whose payloads stand from a position on. -/
def directoryBytes (position : Nat) (fields : List Field) (next : Nat) : List UInt8 :=
  littleBytes 2 fields.length ++ (entriesBytes position fields ++ littleBytes 4 next)

@[simp] theorem length_entryBytes (position : Nat) (field : Field) :
    (entryBytes position field).length = 12 := by
  simp [entryBytes]

@[simp] theorem length_entriesBytes (position : Nat) (fields : List Field) :
    (entriesBytes position fields).length = 12 * fields.length := by
  induction fields generalizing position with
  | nil => rfl
  | cons field fields ih =>
    rw [entriesBytes, List.length_append, ih, length_entryBytes, List.length_cons]
    omega

@[simp] theorem length_directoryBytes (position : Nat) (fields : List Field) (next : Nat) :
    (directoryBytes position fields next).length = 12 * fields.length + 6 := by
  simp [directoryBytes]
  omega

/-- The entry of a field has the bytes of the field. -/
theorem entryBytes_eq (position : Nat) (field : Field) :
    entryBytes position field = (entryOf position field).bytes := by
  have hcode : field.data.code = field.data.type.code := by cases field.data <;> rfl
  unfold entryBytes
  rw [hcode]
  rfl

theorem entriesBytes_eq (position : Nat) (fields : List Field) :
    entriesBytes position fields = (entriesOf position fields).flatMap Entry.bytes := by
  induction fields generalizing position with
  | nil => rfl
  | cons field fields ih =>
    rw [entriesBytes, entriesOf, List.flatMap_cons, ih, entryBytes_eq]

@[simp] theorem length_entriesOf (position : Nat) (fields : List Field) :
    (entriesOf position fields).length = fields.length := by
  induction fields generalizing position with
  | nil => rfl
  | cons field fields ih => rw [entriesOf, List.length_cons, ih, List.length_cons]

/-- The entries of fields have room in a file, if the fields have. -/
theorem isClassic_of_mem_entriesOf {position : Nat} {fields : List Field}
    (hfields : ∀ field ∈ fields, field.tag < 2 ^ 16 ∧ field.data.count < 2 ^ 32) :
    ∀ e ∈ entriesOf position fields, e.IsClassic := by
  induction fields generalizing position with
  | nil => exact List.forall_mem_nil _
  | cons field fields ih =>
    obtain ⟨⟨htag, hcount⟩, hrest⟩ := List.forall_mem_cons.mp hfields
    exact List.forall_mem_cons.mpr
      ⟨⟨htag, hcount, field.data.length_slot position⟩, ih hrest⟩

/-- A directory of fields is read from its bytes. -/
theorem Directory.read_directoryBytes {source : ByteSource}
    (hbound : source.bytes.size < source.positionBound) {position payload next : Nat}
    {fields : List Field} (h : Holds source position (directoryBytes payload fields next))
    (hfields : ∀ field ∈ fields, field.tag < 2 ^ 16 ∧ field.data.count < 2 ^ 32)
    (hlength : fields.length < 2 ^ 16) (hnext : next < 2 ^ 32) :
    Directory.read (Container.classic source) position
      = .ok { entries := entriesOf payload fields, next := next } := by
  unfold directoryBytes at h
  rw [entriesBytes_eq, ← length_entriesOf payload] at h
  refine Directory.read_bytes hbound h ⟨isClassic_of_mem_entriesOf hfields, ?_, hnext⟩
  rwa [length_entriesOf]

/-- The data of a tag among fields. -/
def fieldOf? (fields : List Field) (tag : Tag) : Option FieldData :=
  (fields.findRev? fun field => field.tag == tag.code).map Field.data

/-- The entry of a tag is that of the field of the tag, behind the payloads of the
fields before it.  Of several the last counts, among entries as among fields. -/
theorem findRev?_entriesOf (tag : Tag) (position : Nat) (fields : List Field) :
    match fields.findRev? (·.tag == tag.code) with
    | none => (entriesOf position fields).findRev? (·.tag == tag.code) = none
    | some field => ∃ before after, fields = before ++ field :: after
        ∧ (entriesOf position fields).findRev? (·.tag == tag.code)
          = some (entryOf (position + (payloads before).length) field) := by
  induction fields generalizing position with
  | nil => rfl
  | cons field fields ih =>
    have hrest := ih (position + field.data.payload.length)
    rw [entriesOf, List.findRev?, List.findRev?]
    cases hfound : fields.findRev? (·.tag == tag.code) with
    | some found =>
      rw [hfound] at hrest
      obtain ⟨before, after, hfields, hentry⟩ := hrest
      refine ⟨field :: before, after, by rw [hfields, List.cons_append], ?_⟩
      rw [hentry, payloads_cons, List.length_append, Nat.add_assoc]
    | none =>
      rw [hfound] at hrest
      dsimp only at hrest ⊢
      rw [hrest]
      dsimp only
      rw [show (entryOf position field).tag = field.tag from rfl]
      by_cases htag : (field.tag == tag.code) = true
      · rw [if_pos htag, if_pos htag]
        exact ⟨[], fields, rfl, rfl⟩
      · rw [if_neg htag, if_neg htag]

/-- **The fields of a directory are those that were written.** -/
theorem Directory.field?_eq {source : ByteSource} {loading : Loading} {position next : Nat}
    {fields : List Field} (hbound : source.bytes.size < source.positionBound)
    (hpayloads : Holds source position (payloads fields))
    (hposition : position + (payloads fields).length < 2 ^ 32)
    {tag : Tag} (hfits : ∀ field ∈ fields, field.tag = tag.code → Fits loading field.data) :
    Directory.field? { entries := entriesOf position fields, next := next }
        (Container.classic source) loading tag
      = .ok ((fieldOf? fields tag).map FieldData.value) := by
  have hentry := findRev?_entriesOf tag position fields
  unfold Directory.field? Directory.entry? fieldOf?
  dsimp only
  cases hfound : fields.findRev? (·.tag == tag.code) with
  | none =>
    rw [hfound] at hentry
    dsimp only at hentry
    rw [hentry]
    rfl
  | some field =>
    rw [hfound] at hentry
    obtain ⟨before, after, rfl, hentry⟩ := hentry
    rw [List.findRev?_eq_find?_reverse] at hfound
    have hmem : field ∈ before ++ field :: after :=
      List.mem_append_right before List.mem_cons_self
    have htag := List.find?_some hfound
    rw [beq_iff_eq] at htag
    rw [payloads_append, payloads_cons] at hpayloads hposition
    rw [List.length_append, List.length_append] at hposition
    rw [hentry]
    dsimp only
    rw [Entry.value_entryOf (hfits field hmem htag) hpayloads.right.left (by omega) hbound]
    rfl

/-- The tags of a directory are those that were written. -/
theorem Directory.has_eq (position next : Nat) (fields : List Field) (tag : Tag) :
    Directory.has { entries := entriesOf position fields, next := next } tag
      = (fieldOf? fields tag).isSome := by
  have hentry := findRev?_entriesOf tag position fields
  unfold Directory.has Directory.entry? fieldOf?
  dsimp only
  cases hfound : fields.findRev? (·.tag == tag.code) with
  | none =>
    rw [hfound] at hentry
    dsimp only at hentry
    rw [hentry]
    rfl
  | some field =>
    rw [hfound] at hentry
    obtain ⟨before, after, -, hentry⟩ := hentry
    rw [hentry]
    rfl

/-! ### Tables of fields -/

/-- All tags with their numbers, in the order in which a directory has them. -/
def tagNumbers : List (Nat × Tag) :=
  [(254, .newSubfileType), (256, .imageWidth), (257, .imageLength), (258, .bitsPerSample),
    (259, .compression), (262, .photometricInterpretation), (273, .stripOffsets),
    (277, .samplesPerPixel), (278, .rowsPerStrip), (279, .stripByteCounts),
    (284, .planarConfiguration), (317, .predictor), (322, .tileWidth), (323, .tileLength),
    (324, .tileOffsets), (325, .tileByteCounts), (339, .sampleFormat), (347, .jpegTables),
    (33550, .modelPixelScale), (33922, .modelTiepoint), (34264, .modelTransformation),
    (34735, .geoKeyDirectory), (34736, .geoDoubleParams), (34737, .geoAsciiParams)]

/-- The reader knows the tags by the same numbers. -/
theorem mem_tagNumbers_iff {number : Nat} {tag : Tag} :
    (number, tag) ∈ tagNumbers ↔ number = tag.code := by
  cases tag <;> simp [tagNumbers, Tag.code]

theorem Tag.code_injective {tag other : Tag} (h : tag.code = other.code) : tag = other := by
  revert h
  cases tag <;> cases other <;> decide

theorem Tag.code_lt (tag : Tag) : tag.code < 2 ^ 16 := by
  cases tag <;> decide

/-- The fields of a table that has data for some tags. -/
def fieldsOf (table : Tag → Option FieldData) : List Field :=
  tagNumbers.filterMap fun (number, tag) => (table tag).map fun data => { tag := number, data }

theorem mem_fieldsOf {table : Tag → Option FieldData} {field : Field} :
    field ∈ fieldsOf table ↔ ∃ tag, table tag = some field.data ∧ field.tag = tag.code := by
  unfold fieldsOf
  rw [List.mem_filterMap]
  constructor
  · rintro ⟨⟨number, tag⟩, hmem, h⟩
    obtain ⟨data, hdata, rfl⟩ := Option.map_eq_some_iff.mp h
    exact ⟨tag, hdata, mem_tagNumbers_iff.mp hmem⟩
  · rintro ⟨tag, hdata, htag⟩
    exact ⟨(field.tag, tag), mem_tagNumbers_iff.mpr htag,
      Option.map_eq_some_iff.mpr ⟨field.data, hdata, rfl⟩⟩

theorem length_fieldsOf_le (table : Tag → Option FieldData) : (fieldsOf table).length ≤ 24 :=
  List.length_filterMap_le _ _

/-- The data of a tag among the fields of a table is what the table has for it. -/
theorem fieldOf?_fieldsOf (table : Tag → Option FieldData) (tag : Tag) :
    fieldOf? (fieldsOf table) tag = table tag := by
  unfold fieldOf?
  cases hfound : (fieldsOf table).findRev? fun field => field.tag == tag.code with
  | none =>
    rw [List.findRev?_eq_find?_reverse, List.find?_eq_none] at hfound
    cases hdata : table tag with
    | none => rfl
    | some data =>
      have hmem : (⟨tag.code, data⟩ : Field) ∈ fieldsOf table := mem_fieldsOf.mpr ⟨tag, hdata, rfl⟩
      exact absurd (beq_self_eq_true _) (hfound _ (List.mem_reverse.mpr hmem))
  | some field =>
    rw [List.findRev?_eq_find?_reverse] at hfound
    have htag := List.find?_some hfound
    obtain ⟨other, hdata, hother⟩ :=
      mem_fieldsOf.mp (List.mem_reverse.mp (List.mem_of_find?_eq_some hfound))
    rw [hother, beq_iff_eq] at htag
    rw [Tag.code_injective htag] at hdata
    rw [hdata]
    rfl

end BlockExtent.Tiff
