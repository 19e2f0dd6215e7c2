import BlockExtent.Conversion
import BlockExtent.Proofs.Number.Rescaling

/-!
# The transform at full resolution

The full resolution image is a level like any other: its transform is scaled from the size of
the raster to the same size.  In exact arithmetic nothing would change.  In binary64 the two
pixel sizes are multiplied and divided by one number, which need not undo the rounding of the
product, so a pixel size may become a neighbour of itself.

## Main results

* `Geotransform.scaledTo_self` — **what scaling to the same size changes.**
* `Geotransform.scaledTo_self_tenth_ne` — pixels of a tenth of a unit, three of them.
-/

namespace BlockExtent.Geotransform

open Binary64

/-- **Scaling to the same size changes the pixel sizes at most, and each to a neighbour.**  The
blocks of the full resolution image are in the transform so scaled. -/
theorem scaledTo_self (t : Geotransform Float) (size : Size)
    (hsize : 0 < size.width ∧ size.width < 2 ^ 32 ∧ 0 < size.height ∧ size.height < 2 ^ 32)
    (hpixel : HasPixelMagnitude t.pixelWidth ∧ HasPixelMagnitude t.pixelHeight) :
    ∃ pixelWidth pixelHeight,
      t.scaledTo size size = { t with pixelWidth, pixelHeight }
        ∧ ComesBack t.pixelWidth size.width pixelWidth
        ∧ ComesBack t.pixelHeight size.height pixelHeight
        ∧ (t.scaledTo size size = t
          ↔ IsUndone t.pixelWidth size.width ∧ IsUndone t.pixelHeight size.height)
        ∧ ∀ (reference : Option SpatialReference) (level : PyramidLevel), level.size = size →
          RasterFrame.blocks ⟨size, t, reference⟩ level
            = .ofLevel level { t with pixelWidth, pixelHeight } := by
  obtain ⟨hwidth, hwidth', hheight, hheight'⟩ := hsize
  have hcomes := hpixel.1.comesBack hwidth hwidth'
  have hcomes' := hpixel.2.comesBack hheight hheight'
  refine ⟨_, _, rfl, hcomes, hcomes', ?_, ?_⟩
  · rw [← hcomes.eq_iff, ← hcomes'.eq_iff]
    constructor
    · intro hsame
      exact ⟨congrArg pixelWidth hsame, congrArg pixelHeight hsame⟩
    · rintro ⟨hsame, hsame'⟩
      exact congrArg₂ (fun width height => { t with pixelWidth := width, pixelHeight := height })
        hsame hsame'
  · rintro reference level rfl
    rfl

/-- Pixels of a tenth of a unit. -/
def tenth : Geotransform Float where
  originX := 0
  pixelWidth := 0.1
  rowRotation := 0
  originY := 0
  columnRotation := 0
  pixelHeight := -0.1

theorem hasPixelMagnitude_tenth :
    HasPixelMagnitude tenth.pixelWidth ∧ HasPixelMagnitude tenth.pixelHeight := by
  have hwidth : ofFloat tenth.pixelWidth = .finite false 7205759403792794 (-56) := by
    decide +kernel
  have hheight : ofFloat tenth.pixelHeight = .finite true 7205759403792794 (-56) := by
    decide +kernel
  unfold HasPixelMagnitude
  rw [hwidth, hheight, toRat, toRat, abs_signed _ (by positivity), abs_signed _ (by positivity)]
  norm_num

/-- **Three pixels of a tenth of a unit become larger**, each by the last place. -/
theorem scaledTo_self_tenth_ne :
    (HasPixelMagnitude tenth.pixelWidth ∧ HasPixelMagnitude tenth.pixelHeight)
      ∧ (tenth.scaledTo ⟨3, 3⟩ ⟨3, 3⟩).pixelWidth.toBits = tenth.pixelWidth.toBits + 1
      ∧ tenth.scaledTo ⟨3, 3⟩ ⟨3, 3⟩ ≠ tenth := by
  have hbits : (tenth.scaledTo ⟨3, 3⟩ ⟨3, 3⟩).pixelWidth.toBits = tenth.pixelWidth.toBits + 1 := by
    decide +kernel
  refine ⟨hasPixelMagnitude_tenth, hbits, fun hsame => ?_⟩
  rw [hsame] at hbits
  revert hbits
  decide +kernel

/-- With three columns and a power of two of rows, the height of a pixel stays as it is. -/
theorem scaledTo_self_three_columns :
    ∃ pixelWidth,
      tenth.scaledTo ⟨3, 512⟩ ⟨3, 512⟩ = { tenth with pixelWidth }
        ∧ |(pixelWidth.toBits.toNat : ℤ) - tenth.pixelWidth.toBits.toNat| ≤ 1 := by
  obtain ⟨width, height, hscaled, hwidth, hheight, -, -⟩ :=
    scaledTo_self tenth ⟨3, 512⟩ (by decide) hasPixelMagnitude_tenth
  obtain rfl : height = tenth.pixelHeight := hheight.eq_of_power 9 rfl
  exact ⟨width, hscaled, hwidth.near⟩

end BlockExtent.Geotransform
