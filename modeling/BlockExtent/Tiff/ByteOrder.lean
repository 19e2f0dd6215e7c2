/-!
# Byte orders

## Main definitions

* `littleValue` — the number that bytes denote, the least significant first.
* `ByteOrder` — which end of a number comes first in a file.
* `ByteOrder.value` — the number that bytes denote in that order.
-/

namespace BlockExtent.Tiff

/-- The number that bytes denote, the least significant first. -/
def littleValue : List UInt8 → Nat
  | [] => 0
  | b :: bs => b.toNat + 256 * littleValue bs

/-- The number fits the bytes. -/
theorem littleValue_lt (bs : List UInt8) : littleValue bs < Nat.pow 256 bs.length := by
  induction bs with
  | nil => simp [littleValue]
  | cons b bs ih =>
    have hb : b.toNat < 256 := b.toNat_lt
    have hpow : Nat.pow 256 (bs.length + 1) = Nat.pow 256 bs.length * 256 := rfl
    simp only [littleValue, List.length_cons]
    omega

/-- Which end of a number comes first. -/
inductive ByteOrder where
  /-- The least significant byte comes first. -/
  | little
  /-- The most significant byte comes first. -/
  | big
deriving DecidableEq, Repr

namespace ByteOrder

/-- The number that bytes denote. -/
def value : ByteOrder → List UInt8 → Nat
  | .little, bs => littleValue bs
  | .big, bs => littleValue bs.reverse

theorem value_lt (order : ByteOrder) (bs : List UInt8) :
    order.value bs < Nat.pow 256 bs.length := by
  cases order with
  | little => exact littleValue_lt bs
  | big => simpa [value] using littleValue_lt bs.reverse

/-- The signed number that bytes denote in two's complement. -/
def signedValue (order : ByteOrder) (bs : List UInt8) : Int :=
  Int.bmod (order.value bs) (Nat.pow 256 bs.length)

end ByteOrder

end BlockExtent.Tiff
