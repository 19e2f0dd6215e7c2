import BlockExtent.Number.Word
import BlockExtent.Tiff.Error

/-!
# The bytes of a file

## Main definitions

* `ByteSource` — the bytes that are read, and how far a position may lie.
* `ByteSource.read` — some bytes at a position.
-/

namespace BlockExtent.Tiff

/-- Bytes to read from. -/
structure ByteSource where
  /-- The bytes. -/
  bytes : ByteArray
  /-- Positions stay below this bound. -/
  positionBound : Nat

namespace ByteSource

/-- Bytes in memory, where a position is an unsigned 64-bit word. -/
def ofMemory (bytes : ByteArray) : ByteSource where
  bytes
  positionBound := wordCount 64

/-- Bytes of a file, where a position is a signed 64-bit word. -/
def ofFile (bytes : ByteArray) : ByteSource where
  bytes
  positionBound := wordCount 63

/-- The bytes from `position` on.  Nothing is read unless all of them are
there. -/
def read (s : ByteSource) (position length : Nat) : Except DecodeError (List UInt8) :=
  if s.positionBound ≤ position then .error (.unreadable .invalidArgument)
  else if s.bytes.size < position + length then .error .endOfData
  else .ok (s.bytes.extract position (position + length)).data.toList

/-- What is read lies in the source. -/
theorem le_size_of_read {s : ByteSource} {position length : Nat} {bs : List UInt8}
    (h : s.read position length = .ok bs) : position + length ≤ s.bytes.size := by
  unfold read at h
  split at h
  · cases h
  · split at h
    · cases h
    · omega

/-- As many bytes are read as were asked for. -/
theorem length_of_read {s : ByteSource} {position length : Nat} {bs : List UInt8}
    (h : s.read position length = .ok bs) : bs.length = length := by
  have hle := le_size_of_read h
  unfold read at h
  split at h
  · cases h
  · split at h
    · cases h
    · cases h
      have hsize : s.bytes.data.size = s.bytes.size := rfl
      simp
      omega

end ByteSource

end BlockExtent.Tiff
