import BlockExtent.Proofs.Result
import BlockExtent.Tiff.Container
import Mathlib.Algebra.Group.Nat.Defs

/-!
# Bytes in a file

A file is read at positions.  What is read at a position is what stands there, and a
text put together from parts has each part behind the ones before it.

## Main definitions

* `littleBytes` — the bytes of a number, the least significant first.
* `Holds` — bytes stand at a position.
* `Container.classic` — a file of 32-bit words with the least significant byte
  first.

## Main results

* `littleValue_littleBytes` — a number is read from its bytes.
* `Holds.read`, `Holds.number` — what stands at a position is read there.
* `Container.start_classic` — the start of a file of 32-bit words is read.
-/

namespace BlockExtent.Tiff

/-! ### Numbers -/

/-- The bytes of a number, the least significant first. -/
def littleBytes : (size n : Nat) → List UInt8
  | 0, _ => []
  | size + 1, n => UInt8.ofNat n :: littleBytes size (n / 256)

@[simp] theorem length_littleBytes (size n : Nat) : (littleBytes size n).length = size := by
  induction size generalizing n with
  | zero => rfl
  | succ size ih => rw [littleBytes, List.length_cons, ih]

/-- **A number is read from its bytes**, if it fits them. -/
theorem littleValue_littleBytes {size n : Nat} (h : n < 256 ^ size) :
    littleValue (littleBytes size n) = n := by
  induction size generalizing n with
  | zero =>
    have : n = 0 := by simpa using h
    rw [this]
    rfl
  | succ size ih =>
    have hlt : n / 256 < 256 ^ size := by
      rw [Nat.pow_succ] at h
      exact Nat.div_lt_of_lt_mul (by omega)
    rw [littleBytes, littleValue, ih hlt, UInt8.toNat_ofNat']
    omega

/-! ### Positions -/

/-- Bytes stand at a position of a file. -/
def Holds (source : ByteSource) (position : Nat) (bs : List UInt8) : Prop :=
  ∃ before after, source.bytes.data.toList = before ++ bs ++ after ∧ before.length = position

namespace Holds

variable {source : ByteSource} {position : Nat} {bs cs : List UInt8}

theorem left (h : Holds source position (bs ++ cs)) : Holds source position bs := by
  obtain ⟨before, after, hbytes, hlength⟩ := h
  exact ⟨before, cs ++ after, by rw [hbytes]; simp, hlength⟩

theorem right (h : Holds source position (bs ++ cs)) :
    Holds source (position + bs.length) cs := by
  obtain ⟨before, after, hbytes, hlength⟩ := h
  exact ⟨before ++ bs, after, by rw [hbytes]; simp, by rw [List.length_append, hlength]⟩

theorem le_size (h : Holds source position bs) : position + bs.length ≤ source.bytes.size := by
  obtain ⟨before, after, hbytes, hlength⟩ := h
  have hsize : source.bytes.size = source.bytes.data.toList.length := rfl
  rw [hsize, hbytes, List.length_append, List.length_append]
  omega

/-- **What stands at a position is read there.** -/
theorem read (h : Holds source position bs) (hbound : source.bytes.size < source.positionBound) :
    source.read position bs.length = .ok bs := by
  have hle := h.le_size
  obtain ⟨before, after, hbytes, hlength⟩ := h
  unfold ByteSource.read
  rw [if_neg (by omega), if_neg (by omega)]
  congr 1
  rw [ByteArray.data_extract, Array.toList_extract, hbytes, List.extract_eq_take_drop,
    List.append_assoc, ← hlength, List.drop_left, Nat.add_sub_cancel_left, List.take_left]

end Holds

/-! ### Files of 32-bit words -/

/-- A file of 32-bit words with the least significant byte first. -/
def Container.classic (source : ByteSource) : Container where
  source := source
  order := .little
  big := false

variable {source : ByteSource} {position n : Nat}

/-- A number that stands at a position is read there. -/
theorem Holds.number {size : Nat} (h : Holds source position (littleBytes size n))
    (hn : n < 256 ^ size) (hbound : source.bytes.size < source.positionBound) :
    (Container.classic source).number position size = .ok n := by
  have hread := h.read hbound
  rw [length_littleBytes] at hread
  unfold Container.number Container.classic
  dsimp only
  rw [hread]
  change Except.ok (littleValue (littleBytes size n)) = _
  rw [littleValue_littleBytes hn]

/-- The start of a file of 32-bit words is read. -/
theorem Container.start_classic {first : Nat} {bs : List UInt8}
    (h : Holds source 0 ([0x49, 0x49] ++ (littleBytes 2 42 ++ (littleBytes 4 first ++ bs))))
    (hfirst : first < 256 ^ 4) (hbound : source.bytes.size < source.positionBound) :
    start source = .ok (classic source, first) := by
  have horder : byteOrder? source = some .little := by
    have hread : source.read 0 2 = .ok [0x49, 0x49] := h.left.read hbound
    unfold byteOrder?
    rw [hread]
    rfl
  have hversion : (classic source).number 2 2 = .ok 42 :=
    h.right.left.number (by decide) hbound
  have hposition := h.right.right.left
  rw [length_littleBytes] at hposition
  have hnumber : (classic source).number 4 4 = .ok first := hposition.number hfirst hbound
  unfold start
  rw [horder]
  dsimp only
  rw [show ({ source, order := .little, big := false } : Container) = .classic source from rfl,
    hversion, ok_bind, if_pos rfl, hnumber, ok_bind]
  rfl

end BlockExtent.Tiff
