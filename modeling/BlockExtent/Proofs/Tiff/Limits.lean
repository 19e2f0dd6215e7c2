import BlockExtent.Proofs.Result
import BlockExtent.Tiff.Directory
import Mathlib.Algebra.Group.Nat.Defs

/-!
# Fields under a limit

A field with many elements is not loaded under a limit.  What is read of a directory under the
limit is then the same as without it, unless one of the fields that were asked for is too large;
without a limit no field of a classic file is.

## Main definitions

* `IsUnlimited` — a result is not that a limit has been exceeded.
* `AgreesUnless` — a result under a limit is the one without it, unless something is too large.
* `Entry.IsTooLarge`, `Directory.HasLarge` — fields that are not loaded under the limit.

## Main results

* `AgreesUnless.bind` — steps that agree, one after the other.
* `Entry.agrees_value` — a field agrees, unless it is too large.
* `Entry.IsTooLarge.value_eq` — a field that is too large is refused under the limit.
* `Directory.agrees_use?` — so does a use of a field.
* `Directory.byteCount_lt_of_read` — the fields of a classic file can be addressed.
-/

namespace BlockExtent.Tiff

variable {α β : Type}

/-! ### Results that tell of no limit -/

/-- A result is not that a limit has been exceeded. -/
def IsUnlimited (result : Except DecodeError α) : Prop := result ≠ .error .limitsExceeded

section IsUnlimited

@[simp] theorem isUnlimited_ok (a : α) : IsUnlimited (.ok a : Except DecodeError α) := by
  rintro ⟨⟩

@[simp] theorem isUnlimited_error_iff {cause : DecodeError} :
    IsUnlimited (.error cause : Except DecodeError α) ↔ cause ≠ .limitsExceeded := by
  unfold IsUnlimited
  rw [ne_eq, ne_eq, Except.error.injEq]

theorem IsUnlimited.bind {first : Except DecodeError α} {next : α → Except DecodeError β}
    (h : IsUnlimited first) (hnext : ∀ a, IsUnlimited (next a)) : IsUnlimited (first >>= next) := by
  cases first with
  | error cause => exact isUnlimited_error_iff.mpr (isUnlimited_error_iff.mp h)
  | ok a => exact hnext a

theorem IsUnlimited.map {result : Except DecodeError α} (h : IsUnlimited result) (f : α → β) :
    IsUnlimited (result.map f) := by
  cases result with
  | error cause => exact isUnlimited_error_iff.mpr (isUnlimited_error_iff.mp h)
  | ok a => exact isUnlimited_ok (f a)

/-- A check that has nothing to do with a limit. -/
theorem IsUnlimited.guard {c : Prop} [Decidable c] {cause : DecodeError} {rest : Except DecodeError α}
    (hcause : cause ≠ .limitsExceeded) (h : IsUnlimited rest) :
    IsUnlimited (if c then .error cause else rest) := by
  split_ifs
  · exact isUnlimited_error_iff.mpr hcause
  · exact h

theorem isUnlimited_mapM {f : α → Except DecodeError β} (h : ∀ a, IsUnlimited (f a))
    (as : List α) : IsUnlimited (as.mapM f) := by
  induction as with
  | nil => exact isUnlimited_ok []
  | cons a as ih =>
    rw [List.mapM_cons]
    exact (h a).bind fun _ => ih.bind fun _ => isUnlimited_ok _

theorem isUnlimited_foldlM {f : β → α → Except DecodeError β} (h : ∀ b a, IsUnlimited (f b a))
    (as : List α) (b : β) : IsUnlimited (as.foldlM f b) := by
  induction as generalizing b with
  | nil => exact isUnlimited_ok b
  | cons a as ih =>
    rw [List.foldlM_cons]
    exact (h b a).bind ih

end IsUnlimited

/-- Bytes that are not there are no matter of a limit. -/
theorem ByteSource.isUnlimited_read (source : ByteSource) (position length : ℕ) :
    IsUnlimited (source.read position length) := by
  unfold read
  split_ifs <;> simp

theorem Container.isUnlimited_number (file : Container) (position length : ℕ) :
    IsUnlimited (file.number position length) :=
  (file.source.isUnlimited_read position length).map _

/-- The start of a file is read without a limit. -/
theorem Container.isUnlimited_start (source : ByteSource) : IsUnlimited (start source) := by
  unfold start
  split
  · simp
  · rename_i order _
    have hnumber := fun position length =>
      isUnlimited_number { source, order, big := false } position length
    refine (hnumber 2 2).bind fun version => ?_
    dsimp only
    split_ifs
    · exact (hnumber 4 4).bind fun _ => isUnlimited_ok _
    · refine (hnumber 4 2).bind fun offsetSize => .guard (by simp) ?_
      refine (hnumber 6 2).bind fun reserved => .guard (by simp) ?_
      exact (hnumber 8 8).bind fun _ => isUnlimited_ok _
    · exact isUnlimited_error_iff.mpr (by simp)

/-! ### Uses of values -/

namespace Scalar

theorem isUnlimited_fitting (bits n : ℕ) : IsUnlimited (fitting bits n) := by
  unfold fitting
  split_ifs <;> simp

theorem isUnlimited_toWord16 (e : Scalar) : IsUnlimited e.toWord16 := by
  cases e <;> simp [toWord16, isUnlimited_fitting]

theorem isUnlimited_toWord32 (e : Scalar) : IsUnlimited e.toWord32 := by
  cases e <;> simp [toWord32, isUnlimited_fitting]

theorem isUnlimited_toWord64 (e : Scalar) : IsUnlimited e.toWord64 := by
  cases e <;> simp [toWord64]

theorem isUnlimited_toByte (e : Scalar) : IsUnlimited e.toByte := by
  cases e <;> simp [toByte]

theorem isUnlimited_toDouble (e : Scalar) : IsUnlimited e.toDouble := by
  cases e <;> simp [toDouble]

end Scalar

namespace Value

theorem isUnlimited_toWord16 (v : Value) : IsUnlimited v.toWord16 := by
  cases v <;> simp [toWord16, Scalar.isUnlimited_toWord16]

theorem isUnlimited_toWord32 (v : Value) : IsUnlimited v.toWord32 := by
  cases v <;> simp [toWord32, Scalar.isUnlimited_toWord32]

theorem isUnlimited_toBytes (v : Value) : IsUnlimited v.toBytes := by
  cases v with
  | scalar e => exact e.isUnlimited_toByte.map _
  | text s => simp [toBytes]
  | list es => exact isUnlimited_mapM Scalar.isUnlimited_toByte es

theorem isUnlimited_toWords16 (v : Value) : IsUnlimited v.toWords16 := by
  unfold toWords16
  split
  · exact isUnlimited_ok _
  · exact isUnlimited_ok _
  · exact isUnlimited_mapM Scalar.isUnlimited_toWord16 _
  · simp

theorem isUnlimited_toWords64 (v : Value) : IsUnlimited v.toWords64 := by
  unfold toWords64
  split
  · exact isUnlimited_ok _
  · exact (Scalar.isUnlimited_toWord64 _).map _
  · exact isUnlimited_mapM Scalar.isUnlimited_toWord64 _
  · exact isUnlimited_ok _

theorem isUnlimited_toDoubles (v : Value) : IsUnlimited v.toDoubles := by
  cases v with
  | scalar e => exact e.isUnlimited_toDouble.map _
  | text s => simp [toDoubles]
  | list es => exact isUnlimited_mapM Scalar.isUnlimited_toDouble es

theorem isUnlimited_toText (v : Value) : IsUnlimited v.toText := by
  cases v <;> simp [toText]

end Value

/-! ### Results under a limit -/

/-- A result under a limit is the one without it, unless something is too large.  Then the result
may be that the limit has been exceeded, which it never is without the limit. -/
def AgreesUnless (tooLarge : Prop) (limited unlimited : Except DecodeError α) : Prop :=
  IsUnlimited unlimited
    ∧ (limited = unlimited ∨ tooLarge ∧ limited = .error .limitsExceeded)

namespace AgreesUnless

variable {tooLarge : Prop}

/-- What no limit is asked for agrees. -/
theorem of_isUnlimited {result : Except DecodeError α} (h : IsUnlimited result) :
    AgreesUnless tooLarge result result :=
  ⟨h, .inl rfl⟩

theorem ok (a : α) : AgreesUnless tooLarge (.ok a) (.ok a) := of_isUnlimited (isUnlimited_ok a)

theorem error {cause : DecodeError} (h : cause ≠ .limitsExceeded) :
    AgreesUnless tooLarge (.error cause : Except DecodeError α) (.error cause) :=
  of_isUnlimited (isUnlimited_error_iff.mpr h)

theorem mono {tooLarge' : Prop} {limited unlimited : Except DecodeError α}
    (h : AgreesUnless tooLarge limited unlimited) (himp : tooLarge → tooLarge') :
    AgreesUnless tooLarge' limited unlimited :=
  ⟨h.1, h.2.imp_right (And.imp_left himp)⟩

/-- Nothing is too large. -/
theorem eq {limited unlimited : Except DecodeError α} (h : AgreesUnless tooLarge limited unlimited)
    (hnot : ¬ tooLarge) : limited = unlimited :=
  h.2.resolve_right fun hlarge => hnot hlarge.1

/-- **Steps that agree, one after the other.** -/
theorem bind {first first' : Except DecodeError α} {next next' : α → Except DecodeError β}
    (h : AgreesUnless tooLarge first first')
    (hnext : ∀ a, AgreesUnless tooLarge (next a) (next' a)) :
    AgreesUnless tooLarge (first >>= next) (first' >>= next') := by
  obtain ⟨hunlimited, rfl | ⟨hlarge, rfl⟩⟩ := h
  · cases first with
    | error cause => exact error (isUnlimited_error_iff.mp hunlimited)
    | ok a => exact hnext a
  · exact ⟨hunlimited.bind fun a => (hnext a).1, .inr ⟨hlarge, rfl⟩⟩

theorem map {limited unlimited : Except DecodeError α}
    (h : AgreesUnless tooLarge limited unlimited) (f : α → β) :
    AgreesUnless tooLarge (limited.map f) (unlimited.map f) := by
  refine ⟨h.1.map f, ?_⟩
  obtain ⟨-, rfl | ⟨hlarge, rfl⟩⟩ := h
  · exact .inl rfl
  · exact .inr ⟨hlarge, rfl⟩

/-- The check whether something is too large. -/
theorem check {c : Prop} [Decidable c] (hc : c → tooLarge) {rest : Except DecodeError α}
    (h : IsUnlimited rest) :
    AgreesUnless tooLarge (if c then .error .limitsExceeded else rest) rest := by
  split_ifs with hlarge
  · exact ⟨h, .inr ⟨hc hlarge, rfl⟩⟩
  · exact of_isUnlimited h

end AgreesUnless

/-! ### Fields -/

theorem isUnlimited_textOfByte (bs : List UInt8) : IsUnlimited (textOfByte bs) := by
  unfold textOfByte
  split_ifs <;> simp

theorem isUnlimited_textOfSlot (bs : List UInt8) : IsUnlimited (textOfSlot bs) := by
  unfold textOfSlot
  split_ifs <;> simp

theorem isUnlimited_textOfBytes (bs : List UInt8) : IsUnlimited (textOfBytes bs) := by
  unfold textOfBytes
  split <;> simp

namespace Entry

variable (file : Container) (e : Entry)

/-- A field has too many elements to be loaded under the limit. -/
def IsTooLarge : Prop := Loading.limited.allows e.type e.count = false

theorem isUnlimited_single : IsUnlimited (e.single file) := by
  unfold single
  dsimp only
  split_ifs
  · split
    · exact isUnlimited_textOfByte _
    · exact isUnlimited_ok _
  · refine (file.source.isUnlimited_read _ _).bind fun bs => ?_
    split
    · exact isUnlimited_textOfByte bs
    · exact isUnlimited_ok _

theorem isUnlimited_inSlot : IsUnlimited (e.inSlot file) := by
  unfold inSlot
  dsimp only
  split
  · exact isUnlimited_textOfSlot _
  · exact isUnlimited_ok _

/-- Without a limit a field is loaded from its position, whatever its size. -/
theorem agrees_atPosition :
    AgreesUnless e.IsTooLarge (e.atPosition file .limited) (e.atPosition file .unlimited) := by
  unfold atPosition
  dsimp only
  rw [if_neg (show ¬ Loading.unlimited.allows e.type e.count = false by simp [Loading.allows])]
  refine .check (c := Loading.limited.allows e.type e.count = false) id ?_
  refine (file.source.isUnlimited_read _ _).bind fun bs => ?_
  split
  · exact isUnlimited_textOfBytes bs
  · exact isUnlimited_ok _

/-- **A field agrees, unless it is too large.** -/
theorem agrees_value (h : e.byteCount < wordCount 64) :
    AgreesUnless e.IsTooLarge (e.value file .limited) (e.value file .unlimited) := by
  unfold value
  rw [if_neg (Nat.not_le_of_lt h), if_neg (Nat.not_le_of_lt h)]
  split_ifs
  · exact .ok _
  · exact .of_isUnlimited (e.isUnlimited_single file)
  · exact .of_isUnlimited (e.isUnlimited_inSlot file)
  · exact e.agrees_atPosition file

variable {e}

theorem IsTooLarge.listLimit_lt (h : e.IsTooLarge) : listLimit < e.count := by
  unfold IsTooLarge Loading.allows at h
  split at h
  · cases h
  · have hlt : ¬ e.count ≤ textLimit := of_decide_eq_false h
    unfold textLimit at hlt
    unfold listLimit
    omega
  · exact Nat.lt_of_not_le (of_decide_eq_false h)

/-- A field that is too large is refused under the limit. -/
theorem IsTooLarge.value_eq (h : e.IsTooLarge) : e.value file .limited = .error .limitsExceeded := by
  have hcount := h.listLimit_lt
  have hword : file.wordSize ≤ 8 := by
    unfold Container.wordSize
    split_ifs <;> decide
  have hbytes : file.wordSize < e.byteCount := by
    have hle : e.count * 1 ≤ e.count * e.type.size := Nat.mul_le_mul_left _ e.type.size_pos
    unfold listLimit at hcount
    unfold byteCount
    omega
  unfold value
  unfold listLimit at hcount
  rw [if_neg (show ¬ e.count = 0 by omega), if_neg (show ¬ e.count = 1 by omega),
    if_neg (Nat.not_le_of_lt hbytes)]
  split_ifs
  · rfl
  · unfold IsTooLarge at h
    unfold atPosition
    rw [if_pos h]
    rfl

end Entry

/-! ### Directories -/

namespace Directory

variable {file : Container} {d : Directory} {tag : Tag}

/-- A field of a directory has too many elements to be loaded under the limit. -/
def HasLarge (d : Directory) (tag : Tag) : Prop := ∃ e, d.entry? tag = some e ∧ e.IsTooLarge

theorem mem_entries {e : Entry} (h : d.entry? tag = some e) : e ∈ d.entries := by
  unfold entry? at h
  rw [List.findRev?_eq_find?_reverse] at h
  exact List.mem_reverse.mp (List.mem_of_find?_eq_some h)

theorem HasLarge.has (h : d.HasLarge tag) : d.has tag = true := by
  obtain ⟨e, hentry, -⟩ := h
  unfold Directory.has
  rw [hentry]
  rfl

/-- A required field that is too large is refused under the limit. -/
theorem HasLarge.require_ne_ok (h : d.HasLarge tag) (file : Container)
    (use : Value → Except DecodeError α) (a : α) :
    d.require file .limited tag use ≠ .ok a := by
  obtain ⟨e, hentry, hlarge⟩ := h
  unfold require use? field?
  rw [hentry]
  dsimp only
  rw [hlarge.value_eq]
  rintro ⟨⟩

variable (hsmall : ∀ e ∈ d.entries, e.byteCount < 2 ^ 64)
include hsmall

theorem agrees_field? :
    AgreesUnless (d.HasLarge tag) (d.field? file .limited tag) (d.field? file .unlimited tag) := by
  unfold field?
  cases hentry : d.entry? tag with
  | none => exact .ok none
  | some e =>
    have hvalue := e.agrees_value file (hsmall e (mem_entries hentry))
    exact (hvalue.map some).mono fun hlarge => ⟨e, hentry, hlarge⟩

variable {use : Value → Except DecodeError α} (huse : ∀ v, IsUnlimited (use v))
include huse

theorem agrees_use? : AgreesUnless (d.HasLarge tag) (d.use? file .limited tag use)
    (d.use? file .unlimited tag use) := by
  unfold use?
  refine (agrees_field? hsmall).bind fun value? => ?_
  cases value? with
  | none => exact .ok none
  | some value => exact .of_isUnlimited ((huse value).bind fun _ => isUnlimited_ok _)

end Directory

/-! ### Directories of a classic file -/

theorem Container.number_lt {file : Container} {position length n : ℕ}
    (h : file.number position length = .ok n) : n < 256 ^ length := by
  unfold number at h
  cases hread : file.source.read position length with
  | error cause =>
    rw [hread] at h
    cases h
  | ok bs =>
    rw [hread] at h
    cases h
    have hlt := file.order.value_lt bs
    rwa [ByteSource.length_of_read hread] at hlt

namespace Directory

variable {file : Container}

/-- The fields of a classic file can be addressed: their elements are counted by words of 32
bits. -/
theorem byteCount_lt_of_readEntry (hclassic : file.big = false) {position after : ℕ} {e : Entry}
    (h : readEntry file position = .ok (some e, after)) : e.byteCount < 2 ^ 64 := by
  unfold readEntry at h
  obtain ⟨tag, -, h⟩ := bind_eq_ok h
  obtain ⟨code, -, h⟩ := bind_eq_ok h
  split at h
  · obtain ⟨_, -, h⟩ := bind_eq_ok h
    cases h
  · rename_i type _
    obtain ⟨count, hcount, h⟩ := bind_eq_ok h
    obtain ⟨slot, -, h⟩ := bind_eq_ok h
    cases h
    have hword : file.wordSize = 4 := by
      unfold Container.wordSize
      rw [hclassic]
      rfl
    rw [hword] at hcount
    have hlt := Container.number_lt hcount
    have hsize : type.size ≤ 8 := by cases type <;> decide
    have hle : count * type.size ≤ count * 8 := Nat.mul_le_mul_left count hsize
    change count * type.size < 2 ^ 64
    omega

theorem byteCount_lt_of_readEntries (hclassic : file.big = false) {count position stop : ℕ}
    {entries : List Entry} (h : readEntries file count position = .ok (entries, stop)) :
    ∀ e ∈ entries, e.byteCount < 2 ^ 64 := by
  induction count generalizing position entries stop with
  | zero =>
    cases h
    exact List.forall_mem_nil _
  | succ count ih =>
    unfold readEntries at h
    obtain ⟨⟨found, after⟩, hentry, h⟩ := bind_eq_ok h
    obtain ⟨⟨rest, stop'⟩, hrest, h⟩ := bind_eq_ok h
    cases h
    refine List.forall_mem_append.mpr ⟨?_, ih hrest⟩
    cases found with
    | none => exact List.forall_mem_nil _
    | some e => exact List.forall_mem_singleton.mpr (byteCount_lt_of_readEntry hclassic hentry)

/-- **The fields of a classic file can be addressed.** -/
theorem byteCount_lt_of_read (hclassic : file.big = false) {position : ℕ} {d : Directory}
    (h : read file position = .ok d) : ∀ e ∈ d.entries, e.byteCount < 2 ^ 64 := by
  unfold read at h
  obtain ⟨count, -, h⟩ := bind_eq_ok h
  obtain ⟨⟨entries, stop⟩, hentries, h⟩ := bind_eq_ok h
  obtain ⟨next, -, h⟩ := bind_eq_ok h
  cases h
  exact byteCount_lt_of_readEntries hclassic hentries

theorem isUnlimited_readEntry (file : Container) (position : ℕ) :
    IsUnlimited (readEntry file position) := by
  unfold readEntry
  refine (file.isUnlimited_number _ _).bind fun tag => ?_
  refine (file.isUnlimited_number _ _).bind fun code => ?_
  split
  · exact (file.source.isUnlimited_read _ _).bind fun _ => isUnlimited_ok _
  · refine (file.isUnlimited_number _ _).bind fun count => ?_
    exact (file.source.isUnlimited_read _ _).bind fun _ => isUnlimited_ok _

theorem isUnlimited_readEntries (file : Container) (count position : ℕ) :
    IsUnlimited (readEntries file count position) := by
  induction count generalizing position with
  | zero => exact isUnlimited_ok _
  | succ count ih =>
    unfold readEntries
    refine (isUnlimited_readEntry file position).bind fun found => ?_
    exact (ih found.2).bind fun _ => isUnlimited_ok _

/-- The entries of a directory are read without a limit. -/
theorem isUnlimited_read (file : Container) (position : ℕ) : IsUnlimited (read file position) := by
  unfold read
  refine (file.isUnlimited_number _ _).bind fun count => ?_
  refine (isUnlimited_readEntries file count _).bind fun found => ?_
  exact (file.isUnlimited_number _ _).bind fun _ => isUnlimited_ok _

end Directory

end BlockExtent.Tiff
