import BlockExtent.Text.Trailing
import BlockExtent.Tiff.Container
import BlockExtent.Tiff.Value

/-!
# Entries of a directory

An entry holds the type and the number of the elements of a field, and a slot of
one word.  What fits the slot is in it; for anything larger the slot holds its
position.

## Main definitions

* `Entry` — a field as the directory has it.
* `Loading` — how large a field may be to be loaded.
* `Entry.value` — the value of a field.
-/

namespace BlockExtent.Tiff

/-- A field as the directory has it. -/
structure Entry where
  /-- The number of the tag. -/
  tag : Nat
  /-- The type of the elements. -/
  type : FieldType
  /-- The number of elements. -/
  count : Nat
  /-- The value itself, or its position. -/
  slot : List UInt8

/-- How large a field may be to be loaded from its position. -/
inductive Loading where
  /-- At most `listLimit` elements or `textLimit` bytes of text. -/
  | limited
  /-- Whatever the file holds. -/
  | unlimited
deriving DecidableEq, Repr

/-- The largest number of elements of a list under a limit. -/
def listLimit : Nat := 8388608

/-- The largest number of bytes of a text under a limit. -/
def textLimit : Nat := 268435456

/-- Whether a field may be loaded. -/
def Loading.allows : Loading → FieldType → (count : Nat) → Bool
  | .unlimited, _, _ => true
  | .limited, .ascii, count => count ≤ textLimit
  | .limited, _, count => count ≤ listLimit

/-- The first pieces of `size` bytes each. -/
def piecesOf (size : Nat) : (count : Nat) → List UInt8 → List (List UInt8)
  | 0, _ => []
  | count + 1, bs => bs.take size :: piecesOf size count (bs.drop size)

/-- An element of a type from its bytes. -/
def ByteOrder.scalar (order : ByteOrder) (type : FieldType) (bs : List UInt8) : Scalar :=
  match type with
  | .byte | .ascii | .undefined => .byte (order.value bs)
  | .short => .short (order.value bs)
  | .long => .long (order.value bs)
  | .long8 => .long8 (order.value bs)
  | .directory => .directory (order.value bs)
  | .directory8 => .directory8 (order.value bs)
  | .signedByte | .signedShort | .signedLong | .signedLong8 =>
    .signed (order.signedValue bs)
  | .rational => .rational (order.value (bs.take 4)) (order.value (bs.drop 4))
  | .signedRational =>
    .signedRational (order.signedValue (bs.take 4)) (order.signedValue (bs.drop 4))
  | .float => .float (order.value bs)
  | .double => .double (Float.ofBits (UInt64.ofNat (order.value bs)))

/-- An element of a list that lies in the slot.  Unsigned bytes are read as
numbers of 32 bits there. -/
def ByteOrder.slotScalar (order : ByteOrder) (type : FieldType) (bs : List UInt8) :
    Scalar :=
  match type with
  | .byte => .long (order.value bs)
  | _ => order.scalar type bs

/-- The text of a single byte, which can only be the empty one. -/
def textOfByte (bs : List UInt8) : Except DecodeError Value :=
  if bs.head? = some 0 then .ok (.text "") else .error (.format .invalidTag)

/-- The text in a slot: ASCII with a NUL at its end.  NULs at the ends are not
part of it. -/
def textOfSlot (bs : List UInt8) : Except DecodeError Value :=
  if bs.all (· < 128) ∧ bs.getLast? = some 0 then
    let inner := dropTrailing (· == 0) (bs.dropWhile (· == 0))
    .ok (.text (String.ofList (inner.map fun b => Char.ofNat b.toNat)))
  else .error (.format .invalidTag)

/-- The text at a position: UTF-8 up to the first NUL. -/
def textOfBytes (bs : List UInt8) : Except DecodeError Value :=
  match String.fromUTF8? ⟨(bs.takeWhile (· != 0)).toArray⟩ with
  | some s => .ok (.text s)
  | none => .error (.format .invalidTag)

namespace Entry

variable (file : Container) (e : Entry)

/-- The number of bytes of the value. -/
def byteCount : Nat := e.count * e.type.size

/-- The value of a field of one element. -/
def single : Except DecodeError Value := do
  let bs ←
    if e.type.size ≤ file.wordSize then .ok (e.slot.take e.type.size)
    else file.source.read (file.order.value e.slot) e.type.size
  match e.type with
  | .ascii => textOfByte bs
  | type => return .scalar (file.order.scalar type bs)

/-- The value of a field of several elements in the slot. -/
def inSlot : Except DecodeError Value :=
  let bs := e.slot.take e.byteCount
  match e.type with
  | .ascii => textOfSlot bs
  | type => .ok (.list ((piecesOf type.size e.count bs).map (file.order.slotScalar type)))

/-- The value of a field of several elements at a position. -/
def atPosition (loading : Loading) : Except DecodeError Value := do
  if loading.allows e.type e.count = false then throw .limitsExceeded
  let bs ← file.source.read (file.order.value e.slot) e.byteCount
  match e.type with
  | .ascii => textOfBytes bs
  | type => return .list ((piecesOf type.size e.count bs).map (file.order.scalar type))

/-- The value of a field. -/
def value (loading : Loading) : Except DecodeError Value :=
  if wordCount 64 ≤ e.byteCount then .error .limitsExceeded
  else if e.count = 0 then .ok (.list [])
  else if e.count = 1 then e.single file
  else if e.byteCount ≤ file.wordSize then e.inSlot file
  else e.atPosition file loading

end Entry

end BlockExtent.Tiff
