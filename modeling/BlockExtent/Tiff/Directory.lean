import BlockExtent.Tiff.Entry

/-!
# Directories

A directory is a list of entries and the position of the next directory.

## Main definitions

* `Directory` — the entries and what follows.
* `Directory.read` — the directory at a position.
* `Directory.entry?` — the entry of a tag.
* `Directory.field?` — the value of a tag.
-/

namespace BlockExtent.Tiff

/-- A directory. -/
structure Directory where
  /-- The entries of known types, in the order of the file. -/
  entries : List Entry
  /-- The position of the next directory, or zero. -/
  next : Nat

namespace Directory

/-- Reads the entry at a position.  Gives the position after it too.  An entry
of an unknown type is passed over as one of twelve bytes, whatever the word
size. -/
def readEntry (file : Container) (position : Nat) :
    Except DecodeError (Option Entry × Nat) := do
  let tag ← file.number position 2
  let code ← file.number (position + 2) 2
  match FieldType.ofCode? code with
  | none =>
    let _ ← file.source.read (position + 4) 8
    return (none, position + 12)
  | some type =>
    let count ← file.number (position + 4) file.wordSize
    let slot ← file.source.read (position + 4 + file.wordSize) file.wordSize
    return (some { tag, type, count, slot }, position + 4 + 2 * file.wordSize)

/-- Reads entries from a position on.  Gives the position after them too. -/
def readEntries (file : Container) :
    (count position : Nat) → Except DecodeError (List Entry × Nat)
  | 0, position => .ok ([], position)
  | count + 1, position => do
    let (entry, after) ← readEntry file position
    let (entries, stop) ← readEntries file count after
    return (entry.toList ++ entries, stop)

/-- The number of bytes of the number of entries. -/
def countSize (file : Container) : Nat := if file.big then 8 else 2

/-- Reads the directory at a position. -/
def read (file : Container) (position : Nat) : Except DecodeError Directory := do
  let count ← file.number position (countSize file)
  let (entries, stop) ← readEntries file count (position + countSize file)
  let next ← file.number stop file.wordSize
  return { entries, next }

/-- A directory that is read lies in the file. -/
theorem lt_size_of_read {file : Container} {position : Nat} {d : Directory}
    (h : read file position = .ok d) : position < file.source.bytes.size := by
  unfold read at h
  simp only [bind, Except.bind, Container.number] at h
  cases hread : file.source.read position (countSize file) with
  | error e => simp [hread, Except.map] at h
  | ok bs =>
    have := ByteSource.le_size_of_read hread
    have : 0 < countSize file := by unfold countSize; split <;> decide
    omega

/-- The entry of a tag.  Of several, the last counts. -/
def entry? (d : Directory) (tag : Tag) : Option Entry :=
  d.entries.findRev? (·.tag == tag.code)

/-- Whether a tag is present, whatever its value. -/
def has (d : Directory) (tag : Tag) : Bool := (d.entry? tag).isSome

/-- The value of a tag, if it is present. -/
def field? (d : Directory) (file : Container) (loading : Loading) (tag : Tag) :
    Except DecodeError (Option Value) :=
  match d.entry? tag with
  | none => .ok none
  | some entry => (entry.value file loading).map some

/-- The value of a tag put to a use, if it is present. -/
def use? {α : Type} (d : Directory) (file : Container) (loading : Loading) (tag : Tag)
    (use : Value → Except DecodeError α) : Except DecodeError (Option α) := do
  match ← d.field? file loading tag with
  | none => return none
  | some value => return some (← use value)

/-- The value of a required tag put to a use. -/
def require {α : Type} (d : Directory) (file : Container) (loading : Loading) (tag : Tag)
    (use : Value → Except DecodeError α) : Except DecodeError α := do
  match ← d.use? file loading tag use with
  | none => throw (.format (.missingTag tag))
  | some a => return a

end Directory

end BlockExtent.Tiff
