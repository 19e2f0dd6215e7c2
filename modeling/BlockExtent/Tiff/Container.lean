import BlockExtent.Tiff.ByteOrder
import BlockExtent.Tiff.ByteSource

/-!
# The start of a file

A file starts with its byte order, a version number, and the position of its
first directory.  The version tells whether counts and positions have 32 or 64
bits.

## Main definitions

* `Container` — a file whose start has been read.
* `Container.number` — an unsigned number of the file.
* `Container.start` — reads the start of a file.
-/

namespace BlockExtent.Tiff

/-- A file whose byte order and word size are known. -/
structure Container where
  /-- The bytes of the file. -/
  source : ByteSource
  /-- The order of the bytes of a number. -/
  order : ByteOrder
  /-- Whether counts and positions have 64 bits. -/
  big : Bool

namespace Container

/-- The number of bytes of a count or a position. -/
def wordSize (file : Container) : Nat := if file.big then 8 else 4

/-- The unsigned number of `length` bytes at a position. -/
def number (file : Container) (position length : Nat) : Except DecodeError Nat :=
  (file.source.read position length).map file.order.value

/-- The byte order that the first two bytes announce. -/
def byteOrder? (source : ByteSource) : Option ByteOrder :=
  match source.read 0 2 with
  | .ok [0x49, 0x49] => some .little
  | .ok [0x4d, 0x4d] => some .big
  | _ => none

/-- Reads the start of a file.  Gives the position of the first directory too. -/
def start (source : ByteSource) : Except DecodeError (Container × Nat) :=
  match byteOrder? source with
  | none => .error (.format .signatureNotFound)
  | some order => do
    let classic : Container := { source, order, big := false }
    let version ← classic.number 2 2
    if version = 42 then
      let first ← classic.number 4 4
      return (classic, first)
    else if version = 43 then
      if (← classic.number 4 2) ≠ 8 then throw (.format .signatureNotFound)
      if (← classic.number 6 2) ≠ 0 then throw (.format .signatureNotFound)
      let first ← classic.number 8 8
      return ({ classic with big := true }, first)
    else throw (.format .signatureInvalid)

end Container

end BlockExtent.Tiff
