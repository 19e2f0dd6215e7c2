import BlockExtent.Proofs.Number.Bits
import BlockExtent.Proofs.Tiff.Bytes
import BlockExtent.Tiff.Entry
import Mathlib.Tactic.SplitIfs

/-!
# Fields read back

The value of a field is written into the slot of its entry, or in front of the
directory if the slot is too small.  Either way the entry has the value that was
written.

## Main definitions

* `FieldData`, `Field` — a field to be written.
* `FieldData.payload`, `FieldData.slot` — what is written of it in front of the
  directory, and in the entry.
* `Fits` — a field can be written and loaded.
* `entryOf` — the entry of a field.

## Main results

* `Entry.value_entryOf` — an entry has the value that was written.
-/

namespace BlockExtent.Tiff

/-! ### Fields to be written -/

/-- What is written as the value of a field. -/
inductive FieldData where
  /-- Numbers of 16 bits. -/
  | shorts (ns : List Nat)
  /-- Numbers of 32 bits. -/
  | longs (ns : List Nat)
  /-- Floating point numbers of 64 bits. -/
  | doubles (xs : List Float)

/-- A field to be written. -/
structure Field where
  /-- The number of its tag. -/
  tag : Nat
  /-- Its value. -/
  data : FieldData

namespace FieldData

/-- The type of the elements. -/
def type : FieldData → FieldType
  | .shorts _ => .short
  | .longs _ => .long
  | .doubles _ => .double

/-- The number of the type. -/
def code : FieldData → Nat
  | .shorts _ => 3
  | .longs _ => 4
  | .doubles _ => 12

/-- The bytes of the elements. -/
def pieces : FieldData → List (List UInt8)
  | .shorts ns => ns.map (littleBytes 2)
  | .longs ns => ns.map (littleBytes 4)
  | .doubles xs => xs.map fun x => littleBytes 8 x.toBits.toNat

/-- The elements as they are read. -/
def scalars : FieldData → List Scalar
  | .shorts ns => ns.map .short
  | .longs ns => ns.map .long
  | .doubles xs => xs.map .double

/-- The number of elements. -/
def count (data : FieldData) : Nat := data.pieces.length

/-- All bytes. -/
def bytes (data : FieldData) : List UInt8 := data.pieces.flatten

/-- The value as it is read: one element stands for itself. -/
def value (data : FieldData) : Value :=
  match data.scalars with
  | [element] => .scalar element
  | elements => .list elements

/-- The numbers fit their elements. -/
def IsValid : FieldData → Prop
  | .shorts ns => ∀ n ∈ ns, n < 2 ^ 16
  | .longs ns => ∀ n ∈ ns, n < 2 ^ 32
  | .doubles _ => True

/-- What stands in front of the directory: the bytes, if the slot is too small. -/
def payload (data : FieldData) : List UInt8 := if data.bytes.length ≤ 4 then [] else data.bytes

/-- The slot: the bytes, or their position. -/
def slot (data : FieldData) (position : Nat) : List UInt8 :=
  if data.bytes.length ≤ 4 then data.bytes ++ List.replicate (4 - data.bytes.length) 0
  else littleBytes 4 position

theorem length_of_mem_pieces (data : FieldData) {piece : List UInt8} (h : piece ∈ data.pieces) :
    piece.length = data.type.size := by
  cases data with
  | shorts ns =>
    obtain ⟨n, -, rfl⟩ := List.mem_map.mp h
    exact length_littleBytes 2 n
  | longs ns =>
    obtain ⟨n, -, rfl⟩ := List.mem_map.mp h
    exact length_littleBytes 4 n
  | doubles xs =>
    obtain ⟨x, -, rfl⟩ := List.mem_map.mp h
    exact length_littleBytes 8 _

theorem length_bytes (data : FieldData) : data.bytes.length = data.count * data.type.size := by
  unfold bytes count
  have h : ∀ piece ∈ data.pieces, piece.length = data.type.size :=
    fun _ hpiece => data.length_of_mem_pieces hpiece
  generalize data.pieces = pieces at h
  induction pieces with
  | nil => simp
  | cons piece pieces ih =>
    rw [List.flatten_cons, List.length_append, h piece List.mem_cons_self,
      ih fun p hp => h p (List.mem_cons_of_mem piece hp), List.length_cons,
      Nat.succ_mul, Nat.add_comm]

@[simp] theorem length_slot (data : FieldData) (position : Nat) :
    (data.slot position).length = 4 := by
  unfold slot
  split
  · rw [List.length_append, List.length_replicate]
    omega
  · exact length_littleBytes 4 position

/-- The elements are read from their bytes. -/
theorem map_scalar_pieces {data : FieldData} (h : data.IsValid) :
    data.pieces.map (ByteOrder.little.scalar data.type) = data.scalars := by
  cases data with
  | shorts ns =>
    simp only [pieces, type, scalars, List.map_map]
    refine List.map_congr_left fun n hn => ?_
    have hlt : n < 256 ^ 2 := h n hn
    simp only [Function.comp_apply, ByteOrder.scalar, ByteOrder.value,
      littleValue_littleBytes hlt]
  | longs ns =>
    simp only [pieces, type, scalars, List.map_map]
    refine List.map_congr_left fun n hn => ?_
    have hlt : n < 256 ^ 4 := h n hn
    simp only [Function.comp_apply, ByteOrder.scalar, ByteOrder.value,
      littleValue_littleBytes hlt]
  | doubles xs =>
    simp only [pieces, type, scalars, List.map_map]
    refine List.map_congr_left fun x _ => ?_
    have hlt : x.toBits.toNat < 256 ^ 8 := x.toBits.toNat_lt
    simp only [Function.comp_apply, ByteOrder.scalar, ByteOrder.value,
      littleValue_littleBytes hlt, UInt64.ofNat_toNat, Binary64.ofBits_toBits]

end FieldData

/-! ### Entries -/

theorem piecesOf_flatten {size : Nat} {pieces : List (List UInt8)}
    (h : ∀ piece ∈ pieces, piece.length = size) :
    piecesOf size pieces.length pieces.flatten = pieces := by
  induction pieces with
  | nil => rfl
  | cons piece pieces ih =>
    have hpiece := h piece List.mem_cons_self
    rw [List.length_cons, piecesOf, List.flatten_cons, ← hpiece, List.take_left, List.drop_left,
      hpiece, ih fun p hp => h p (List.mem_cons_of_mem piece hp)]

/-- A field can be written and loaded: its numbers fit, and it is no larger than what
is loaded. -/
structure Fits (loading : Loading) (data : FieldData) : Prop where
  isValid : data.IsValid
  length_lt : data.bytes.length < 2 ^ 32
  allows : loading.allows data.type data.count = true

/-- The entry of a field whose payload stands at a position. -/
def entryOf (position : Nat) (field : Field) : Entry where
  tag := field.tag
  type := field.data.type
  count := field.data.count
  slot := field.data.slot position

section Value

variable {source : ByteSource} {loading : Loading} {position : Nat} {field : Field}

private theorem take_slot {data : FieldData} (h : data.bytes.length ≤ 4) (position : Nat) :
    (data.slot position).take data.bytes.length = data.bytes := by
  unfold FieldData.slot
  rw [if_pos h, List.take_left]

/-- A value that its slot is too small for is read at the position in the slot. -/
private theorem read_payload {data : FieldData} (h : ¬ data.bytes.length ≤ 4)
    (hholds : Holds source position data.payload) (hposition : position < 2 ^ 32)
    (hbound : source.bytes.size < source.positionBound) :
    source.read (littleValue (data.slot position)) data.bytes.length = .ok data.bytes := by
  unfold FieldData.slot
  rw [if_neg h, littleValue_littleBytes hposition]
  unfold FieldData.payload at hholds
  rw [if_neg h] at hholds
  exact hholds.read hbound

/-- The value of a list of elements. -/
private theorem value_of_count {data : FieldData} (h : data.count ≠ 1) (hvalid : data.IsValid) :
    data.value = .list (data.pieces.map (ByteOrder.little.scalar data.type)) := by
  have hscalars := FieldData.map_scalar_pieces hvalid
  unfold FieldData.value
  rw [hscalars]
  split
  · rename_i element heq
    have hlength := congrArg List.length hscalars
    rw [heq, List.length_map] at hlength
    exact absurd hlength h
  · rfl

/-- A field of one element. -/
private theorem single_entryOf (hvalid : field.data.IsValid) (hcount : field.data.count = 1)
    (hholds : Holds source position field.data.payload) (hposition : position < 2 ^ 32)
    (hbound : source.bytes.size < source.positionBound) :
    (entryOf position field).single (Container.classic source) = .ok field.data.value := by
  obtain ⟨tag, data⟩ := field
  dsimp only at hvalid hcount hholds
  have hsize : data.bytes.length = data.type.size := by
    rw [data.length_bytes, hcount, Nat.one_mul]
  -- the bytes of a single element are all bytes of the field
  obtain ⟨piece, hpieces⟩ := List.length_eq_one_iff.mp hcount
  have hpiece : data.bytes = piece := by
    unfold FieldData.bytes
    rw [hpieces, List.flatten_singleton]
  have hvalue : data.value = .scalar (ByteOrder.little.scalar data.type data.bytes) := by
    have hscalars := FieldData.map_scalar_pieces hvalid
    rw [hpieces, List.map_singleton, ← hpiece] at hscalars
    unfold FieldData.value
    rw [← hscalars]
  rw [hvalue]
  unfold Entry.single
  rw [show (Container.classic source).wordSize = 4 from rfl,
    show (entryOf position ⟨tag, data⟩).type = data.type from rfl, ← hsize]
  dsimp only
  by_cases hle : data.bytes.length ≤ 4
  · have htake := take_slot hle position
    rw [if_pos hle, show (entryOf position ⟨tag, data⟩).slot = data.slot position from rfl, htake]
    cases data <;> rfl
  · have hread : (Container.classic source).source.read ((Container.classic source).order.value
        (entryOf position ⟨tag, data⟩).slot) data.bytes.length = .ok data.bytes :=
      read_payload hle hholds hposition hbound
    rw [if_neg hle, hread]
    cases data <;> rfl

/-- **An entry has the value that was written.** -/
theorem Entry.value_entryOf (hfits : Fits loading field.data)
    (hholds : Holds source position field.data.payload) (hposition : position < 2 ^ 32)
    (hbound : source.bytes.size < source.positionBound) :
    (entryOf position field).value (Container.classic source) loading = .ok field.data.value := by
  obtain ⟨hvalid, hlength, hallows⟩ := hfits
  have hsingle : field.data.count = 1 →
      (entryOf position field).single (Container.classic source) = .ok field.data.value :=
    fun hcount => single_entryOf hvalid hcount hholds hposition hbound
  obtain ⟨tag, data⟩ := field
  dsimp only at hvalid hlength hallows hholds
  have hbytes := data.length_bytes
  have hword : wordCount 64 = 2 ^ 64 := rfl
  unfold Entry.value
  rw [show (entryOf position ⟨tag, data⟩).byteCount = data.bytes.length from hbytes.symm,
    if_neg (by omega), show (entryOf position ⟨tag, data⟩).count = data.count from rfl,
    show (Container.classic source).wordSize = 4 from rfl]
  have hpieces : piecesOf data.type.size data.count data.bytes = data.pieces :=
    piecesOf_flatten fun piece hpiece => data.length_of_mem_pieces hpiece
  -- no element, one element, several that fit the slot, several that do not
  split_ifs with hzero hone hslot
  · rw [value_of_count (by omega) hvalid, List.eq_nil_of_length_eq_zero hzero]
    rfl
  · exact hsingle hone
  · rw [value_of_count hone hvalid]
    have htake := take_slot hslot position
    rw [hbytes] at htake
    unfold Entry.inSlot
    rw [show (entryOf position ⟨tag, data⟩).byteCount = data.count * data.type.size from rfl,
      show (entryOf position ⟨tag, data⟩).slot = data.slot position from rfl, htake, ← hpieces]
    cases data <;> rfl
  · rw [value_of_count hone hvalid]
    have hread : (Container.classic source).source.read ((Container.classic source).order.value
        (entryOf position ⟨tag, data⟩).slot) data.bytes.length = .ok data.bytes :=
      read_payload hslot hholds hposition hbound
    unfold Entry.atPosition
    rw [show (entryOf position ⟨tag, data⟩).byteCount = data.bytes.length from hbytes.symm,
      show (entryOf position ⟨tag, data⟩).type = data.type from rfl,
      show (entryOf position ⟨tag, data⟩).count = data.count from rfl, hallows, hread, ← hpieces]
    cases data <;> rfl

end Value

end BlockExtent.Tiff
