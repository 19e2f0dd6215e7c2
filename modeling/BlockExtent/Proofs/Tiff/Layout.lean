import BlockExtent.Proofs.Tiff.Bytes
import BlockExtent.Proofs.Tiff.Sequences

/-!
# Files of directories

Directories can be written one behind the other, whatever their entries are.  The file that has
nothing but them is read as these directories, in their order.

## Main definitions

* `Entry.bytes`, `Directory.bytes` — the bytes of entries and directories.
* `layOut` — the directories of some entries, each of which tells where the next one is.
* `sequenceFile` — the file of these directories.

## Main results

* `Directory.read_bytes` — a directory is read from its bytes.
* `directories_sequenceFile` — **a file of directories has these directories.**
-/

namespace BlockExtent.Tiff

/-! ### Directories -/

/-- The number of a type. -/
def FieldType.code : FieldType → Nat
  | .byte => 1
  | .ascii => 2
  | .short => 3
  | .long => 4
  | .rational => 5
  | .signedByte => 6
  | .undefined => 7
  | .signedShort => 8
  | .signedLong => 9
  | .signedRational => 10
  | .float => 11
  | .double => 12
  | .directory => 13
  | .long8 => 16
  | .signedLong8 => 17
  | .directory8 => 18

theorem FieldType.ofCode?_code (type : FieldType) : ofCode? type.code = some type := by
  cases type <;> rfl

theorem FieldType.code_lt (type : FieldType) : type.code < 256 ^ 2 := by
  cases type <;> decide

/-- The bytes of an entry. -/
def Entry.bytes (e : Entry) : List UInt8 :=
  littleBytes 2 e.tag ++ (littleBytes 2 e.type.code ++ (littleBytes 4 e.count ++ e.slot))

/-- An entry has room in a file of 32-bit words. -/
structure Entry.IsClassic (e : Entry) : Prop where
  tag_lt : e.tag < 2 ^ 16
  count_lt : e.count < 2 ^ 32
  length_slot : e.slot.length = 4

instance (e : Entry) : Decidable e.IsClassic :=
  decidable_of_iff (e.tag < 2 ^ 16 ∧ e.count < 2 ^ 32 ∧ e.slot.length = 4)
    ⟨fun h => ⟨h.1, h.2.1, h.2.2⟩, fun h => ⟨h.1, h.2, h.3⟩⟩

theorem Entry.IsClassic.length_bytes {e : Entry} (h : e.IsClassic) : e.bytes.length = 12 := by
  simp [Entry.bytes, h.length_slot]

/-- The bytes of a directory. -/
def Directory.bytes (d : Directory) : List UInt8 :=
  littleBytes 2 d.entries.length ++ (d.entries.flatMap Entry.bytes ++ littleBytes 4 d.next)

/-- A directory has room in a file of 32-bit words. -/
structure Directory.IsClassic (d : Directory) : Prop where
  entries : ∀ e ∈ d.entries, e.IsClassic
  length_lt : d.entries.length < 2 ^ 16
  next_lt : d.next < 2 ^ 32

theorem length_flatMap_bytes {entries : List Entry} (h : ∀ e ∈ entries, e.IsClassic) :
    (entries.flatMap Entry.bytes).length = 12 * entries.length := by
  induction entries with
  | nil => rfl
  | cons e entries ih =>
    obtain ⟨he, hentries⟩ := List.forall_mem_cons.mp h
    rw [List.flatMap_cons, List.length_append, ih hentries, he.length_bytes, List.length_cons]
    omega

section Directory

variable {source : ByteSource} (hbound : source.bytes.size < source.positionBound)
include hbound

/-- An entry is read from its bytes. -/
theorem Directory.readEntry_bytes {position : Nat} {e : Entry} (h : Holds source position e.bytes)
    (he : e.IsClassic) :
    readEntry (Container.classic source) position = .ok (some e, position + 12) := by
  have htype := h.right.left
  have hlength := h.right.right.left
  have hslot := h.right.right.right.read hbound
  rw [length_littleBytes] at htype hlength hslot
  rw [length_littleBytes] at hlength hslot
  rw [length_littleBytes, he.length_slot] at hslot
  unfold readEntry
  rw [h.left.number he.tag_lt hbound, ok_bind, htype.number e.type.code_lt hbound, ok_bind,
    e.type.ofCode?_code]
  dsimp only
  rw [show (Container.classic source).wordSize = 4 from rfl, hlength.number he.count_lt hbound,
    ok_bind, show (Container.classic source).source = source from rfl, hslot, ok_bind]
  rfl

/-- Entries are read from their bytes. -/
theorem Directory.readEntries_bytes {position : Nat} {entries : List Entry}
    (h : Holds source position (entries.flatMap Entry.bytes))
    (hentries : ∀ e ∈ entries, e.IsClassic) :
    readEntries (Container.classic source) entries.length position
      = .ok (entries, position + 12 * entries.length) := by
  induction entries generalizing position with
  | nil => rfl
  | cons e entries ih =>
    obtain ⟨he, hrest⟩ := List.forall_mem_cons.mp hentries
    rw [List.flatMap_cons] at h
    have hbehind := h.right
    rw [he.length_bytes] at hbehind
    rw [List.length_cons, readEntries, readEntry_bytes hbound h.left he, ok_bind]
    dsimp only
    rw [ih hbehind hrest, ok_bind]
    refine congrArg Except.ok (Prod.ext rfl ?_)
    change position + 12 + 12 * entries.length = position + 12 * (entries.length + 1)
    omega

/-- **A directory is read from its bytes.** -/
theorem Directory.read_bytes {position : Nat} {d : Directory} (h : Holds source position d.bytes)
    (hd : d.IsClassic) : Directory.read (Container.classic source) position = .ok d := by
  have hentries := h.right.left
  have hstop := h.right.right
  rw [length_littleBytes] at hentries hstop
  rw [length_flatMap_bytes hd.entries] at hstop
  unfold Directory.read
  rw [show countSize (Container.classic source) = 2 from rfl, h.left.number hd.length_lt hbound,
    ok_bind, readEntries_bytes hbound hentries hd.entries, ok_bind]
  dsimp only
  rw [show (Container.classic source).wordSize = 4 from rfl, hstop.number hd.next_lt hbound,
    ok_bind]
  rfl

end Directory

/-! ### Files -/

/-- The directories of some entries that are laid out from a position on. -/
def layOut : List (List Entry) → (position : Nat) → List Directory
  | [], _ => []
  | entries :: rest, position =>
    { entries, next := if rest.isEmpty then 0 else position + (12 * entries.length + 6) }
      :: layOut rest (position + (12 * entries.length + 6))

/-- The bytes of a file of directories: the byte order, the version, the position of the first
directory, and the directories. -/
def sequenceBytes (sequence : List (List Entry)) : List UInt8 :=
  [0x49, 0x49] ++ (littleBytes 2 42 ++ (littleBytes 4 8
    ++ (layOut sequence 8).flatMap Directory.bytes))

/-- The file of directories with some entries. -/
def sequenceFile (sequence : List (List Entry)) : ByteSource :=
  .ofFile ⟨(sequenceBytes sequence).toArray⟩

/-- Entries can be written as a directory. -/
structure AreWritable (entries : List Entry) : Prop where
  isClassic : ∀ e ∈ entries, e.IsClassic
  length_lt : entries.length < 2 ^ 16

instance (entries : List Entry) : Decidable (AreWritable entries) :=
  decidable_of_iff ((∀ e ∈ entries, e.IsClassic) ∧ entries.length < 2 ^ 16)
    ⟨fun h => ⟨h.1, h.2⟩, fun h => ⟨h.1, h.2⟩⟩

theorem AreWritable.length_bytes {entries : List Entry} (h : AreWritable entries) (next : Nat) :
    (Directory.bytes { entries, next }).length = 12 * entries.length + 6 := by
  unfold Directory.bytes
  rw [List.length_append, List.length_append, length_flatMap_bytes h.isClassic,
    length_littleBytes, length_littleBytes]
  omega

/-- Directories that are laid out in a file lie one behind the other. -/
theorem ascends_layOut {source : ByteSource} (hsize : source.bytes.size < 2 ^ 32)
    (hbound : source.bytes.size < source.positionBound) (entries : List Entry)
    (rest : List (List Entry)) {loading : Loading} {position : Nat}
    (h : Holds source position ((layOut (entries :: rest) position).flatMap Directory.bytes))
    (hwritable : ∀ written ∈ entries :: rest, AreWritable written) :
    Chain.Ascends (Container.classic source) (fun _ d => .ok d) loading position
      (layOut (entries :: rest) position) := by
  induction rest generalizing entries position loading with
  | nil =>
    obtain ⟨hentries, hlength⟩ := hwritable entries List.mem_cons_self
    have hread := Directory.read_bytes hbound h.left ⟨hentries, hlength, Nat.zero_lt_succ _⟩
    exact .last hread rfl rfl
  | cons next rest ih =>
    have hfirst := hwritable entries List.mem_cons_self
    rw [layOut, List.flatMap_cons] at h
    have hbehind := h.right
    rw [hfirst.length_bytes] at hbehind
    have hle := hbehind.le_size
    have hnext : position + (12 * entries.length + 6) < 2 ^ 32 := by omega
    have hread := Directory.read_bytes hbound h.left ⟨hfirst.isClassic, hfirst.length_lt, hnext⟩
    refine .cons hread (show position < position + (12 * entries.length + 6) by omega) rfl ?_
    exact ih next hbehind fun written hmem => hwritable written (List.mem_cons_of_mem entries hmem)

/-- **A file of directories has these directories.** -/
theorem directories_sequenceFile {entries : List Entry} {rest : List (List Entry)}
    (hwritable : ∀ written ∈ entries :: rest, AreWritable written)
    (hsize : (sequenceBytes (entries :: rest)).length < 2 ^ 32) :
    Container.start (sequenceFile (entries :: rest))
        = .ok (Container.classic (sequenceFile (entries :: rest)), 8)
      ∧ Chain.directories (Container.classic (sequenceFile (entries :: rest))) 8
        = { visits := layOut (entries :: rest) 8, fault := none } := by
  have hbound : (sequenceBytes (entries :: rest)).length < 2 ^ 63 := by omega
  have hholds : Holds (sequenceFile (entries :: rest)) 0 (sequenceBytes (entries :: rest)) :=
    ⟨[], [], by simp [sequenceFile, ByteSource.ofFile], rfl⟩
  have hdirectories := hholds.right.right.right
  rw [length_littleBytes, length_littleBytes] at hdirectories
  refine ⟨Container.start_classic hholds (by decide) hbound, ?_⟩
  have hascends := @ascends_layOut (sequenceFile (entries :: rest)) hsize hbound entries rest
    .limited 8 hdirectories hwritable
  exact hascends.followFrom_eq (by rintro _ ⟨⟩)

end BlockExtent.Tiff
