import BlockExtent.Number.Word
import BlockExtent.Tiff.Error

/-!
# The values of fields

## Main definitions

* `FieldType` — the types of fields, with their numbers and element sizes.
* `Scalar` — an element of a field.
* `Value` — the value of a field: one element, a text, or a list.
* `Value.toWord16`, `Value.toWords64` and others — the uses of a value.
-/

namespace BlockExtent.Tiff

/-- The type of a field. -/
inductive FieldType where
  /-- Unsigned numbers of 8 bits. -/
  | byte
  /-- Text. -/
  | ascii
  /-- Unsigned numbers of 16 bits. -/
  | short
  /-- Unsigned numbers of 32 bits. -/
  | long
  /-- Quotients of unsigned numbers of 32 bits. -/
  | rational
  /-- Signed numbers of 8 bits. -/
  | signedByte
  /-- Bytes of any meaning. -/
  | undefined
  /-- Signed numbers of 16 bits. -/
  | signedShort
  /-- Signed numbers of 32 bits. -/
  | signedLong
  /-- Quotients of signed numbers of 32 bits. -/
  | signedRational
  /-- Floating point numbers of 32 bits. -/
  | float
  /-- Floating point numbers of 64 bits. -/
  | double
  /-- Positions of directories, of 32 bits. -/
  | directory
  /-- Unsigned numbers of 64 bits. -/
  | long8
  /-- Signed numbers of 64 bits. -/
  | signedLong8
  /-- Positions of directories, of 64 bits. -/
  | directory8
deriving DecidableEq, Repr

namespace FieldType

/-- The type with a number. -/
def ofCode? : Nat → Option FieldType
  | 1 => some .byte
  | 2 => some .ascii
  | 3 => some .short
  | 4 => some .long
  | 5 => some .rational
  | 6 => some .signedByte
  | 7 => some .undefined
  | 8 => some .signedShort
  | 9 => some .signedLong
  | 10 => some .signedRational
  | 11 => some .float
  | 12 => some .double
  | 13 => some .directory
  | 16 => some .long8
  | 17 => some .signedLong8
  | 18 => some .directory8
  | _ => none

/-- The number of bytes of an element. -/
def size : FieldType → Nat
  | .byte | .ascii | .signedByte | .undefined => 1
  | .short | .signedShort => 2
  | .long | .signedLong | .float | .directory => 4
  | .rational | .signedRational | .double | .long8 | .signedLong8 | .directory8 => 8

theorem size_pos (t : FieldType) : 0 < t.size := by cases t <;> decide

end FieldType

/-- An element of a field. -/
inductive Scalar where
  /-- A number of 8 bits. -/
  | byte (n : Nat)
  /-- A number of 16 bits. -/
  | short (n : Nat)
  /-- A number of 32 bits. -/
  | long (n : Nat)
  /-- A number of 64 bits. -/
  | long8 (n : Nat)
  /-- A position of a directory, of 32 bits. -/
  | directory (n : Nat)
  /-- A position of a directory, of 64 bits. -/
  | directory8 (n : Nat)
  /-- A signed number. -/
  | signed (n : Int)
  /-- A quotient of numbers of 32 bits. -/
  | rational (num den : Nat)
  /-- A quotient of signed numbers. -/
  | signedRational (num den : Int)
  /-- A floating point number of 32 bits, by its bits. -/
  | float (bits : Nat)
  /-- A floating point number of 64 bits. -/
  | double (x : Float)

/-- The value of a field. -/
inductive Value where
  /-- A single element. -/
  | scalar (element : Scalar)
  /-- A text. -/
  | text (s : String)
  /-- Any number of elements. -/
  | list (elements : List Scalar)

namespace Scalar

/-- A number that fits `bits` bits. -/
def fitting (bits n : Nat) : Except DecodeError Nat :=
  if n < wordCount bits then .ok n else .error .sizeExceeded

/-- An element used as a number of 16 bits. -/
def toWord16 : Scalar → Except DecodeError Nat
  | .byte n | .short n | .long n | .long8 n => fitting 16 n
  | _ => .error (.format .invalidType)

/-- An element used as a number of 32 bits. -/
def toWord32 : Scalar → Except DecodeError Nat
  | .byte n | .short n | .long n | .long8 n | .directory n | .directory8 n =>
    fitting 32 n
  | _ => .error (.format .invalidType)

/-- An element used as a number of 64 bits. -/
def toWord64 : Scalar → Except DecodeError Nat
  | .byte n | .short n | .long n | .long8 n | .directory n | .directory8 n => .ok n
  | _ => .error (.format .invalidType)

/-- An element used as a byte. -/
def toByte : Scalar → Except DecodeError Nat
  | .byte n => .ok n
  | _ => .error (.format .invalidType)

/-- An element used as a floating point number. -/
def toDouble : Scalar → Except DecodeError Float
  | .double x => .ok x
  | _ => .error (.format .invalidType)

end Scalar

namespace Value

/-- A value used as a number of 16 bits.  A list never is one. -/
def toWord16 : Value → Except DecodeError Nat
  | .scalar e => e.toWord16
  | _ => .error (.format .invalidType)

/-- A value used as a number of 32 bits.  A list never is one. -/
def toWord32 : Value → Except DecodeError Nat
  | .scalar e => e.toWord32
  | _ => .error (.format .invalidType)

/-- A value used as bytes. -/
def toBytes : Value → Except DecodeError (List Nat)
  | .scalar e => e.toByte.map ([·])
  | .list es => es.mapM Scalar.toByte
  | .text _ => .error (.format .invalidType)

/-- A value used as numbers of 16 bits. -/
def toWords16 : Value → Except DecodeError (List Nat)
  | .scalar (.byte n) | .scalar (.short n) => .ok [n]
  | .list es => es.mapM Scalar.toWord16
  | _ => .error (.format .invalidType)

/-- A value used as numbers of 64 bits.  A single quotient counts as two numbers,
and a text as its code points. -/
def toWords64 : Value → Except DecodeError (List Nat)
  | .scalar (.rational num den) => .ok [num, den]
  | .scalar e => e.toWord64.map ([·])
  | .list es => es.mapM Scalar.toWord64
  | .text s => .ok (s.toList.map Char.toNat)

/-- A value used as floating point numbers. -/
def toDoubles : Value → Except DecodeError (List Float)
  | .scalar e => e.toDouble.map ([·])
  | .list es => es.mapM Scalar.toDouble
  | .text _ => .error (.format .invalidType)

/-- A value used as a text. -/
def toText : Value → Except DecodeError String
  | .text s => .ok s
  | _ => .error (.format .invalidType)

end Value

end BlockExtent.Tiff
