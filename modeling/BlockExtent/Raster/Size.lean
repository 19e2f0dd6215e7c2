/-!
# Sizes in pixels

## Main definitions

* `Size` — a width and a height, of a raster, of a level or of a block.
-/

namespace BlockExtent

/-- A width and a height in pixels. -/
structure Size where
  /-- The number of columns. -/
  width : Nat
  /-- The number of rows. -/
  height : Nat
deriving DecidableEq, Repr, Inhabited

namespace Size

/-- Whether a size holds no pixel. -/
def IsEmpty (s : Size) : Prop := s.width = 0 ∨ s.height = 0

instance (s : Size) : Decidable s.IsEmpty :=
  inferInstanceAs (Decidable (_ ∨ _))

theorem not_isEmpty {s : Size} : ¬ s.IsEmpty ↔ 0 < s.width ∧ 0 < s.height := by
  unfold IsEmpty
  omega

/-- The text `WxH`. -/
def text (s : Size) : String := s!"{s.width}x{s.height}"

end Size

end BlockExtent
