import BlockExtent.Number.Word
import BlockExtent.Raster.Size

/-!
# Resolution levels

A raster comes in levels: level `0` is the full resolution image and level `n`
its `n`-th overview.  A level is stored in blocks of one size, of which those at
the right and the lower edge may be partly outside.

## Main definitions

* `PyramidLevel` — the size and block size of one level, all of them positive.
* `PyramidLevel.make` — the level, or what is wrong with its sizes.
* `Grid` — the number of blocks along each axis, `PyramidLevel.grid`.
* `Grid.count` — the number of blocks, a word that wraps around when `Grid.Fits` fails.
* `layerName` — the name of the output layer of a level.
-/

namespace BlockExtent

/-- Why sizes do not make a level. -/
inductive LevelFault where
  /-- The level holds no pixel. -/
  | rasterSize (size : Size)
  /-- The blocks hold no pixel. -/
  | blockSize (size : Size)
deriving DecidableEq, Repr

/-- The wording of a fault. -/
def LevelFault.message : LevelFault → String
  | .rasterSize size => s!"raster size {size.text}"
  | .blockSize size => s!"block size {size.text}"

/-- One resolution level of a raster. -/
structure PyramidLevel where
  /-- `0` for the full resolution image, `n` for the `n`-th overview. -/
  index : Nat
  /-- The size of the level. -/
  size : Size
  /-- The size of every block, also of those that reach past the edge. -/
  blockSize : Size
  /-- A level holds a pixel. -/
  size_nonempty : ¬ size.IsEmpty
  /-- A block holds a pixel. -/
  blockSize_nonempty : ¬ blockSize.IsEmpty

/-- The number of blocks along each axis. -/
structure Grid where
  /-- Blocks in a row of blocks. -/
  across : Nat
  /-- Rows of blocks. -/
  down : Nat
deriving DecidableEq, Repr, Inhabited

/-- The number of blocks, as the word that it is counted in. -/
def Grid.count (g : Grid) : Nat := wordMul 64 g.across g.down

/-- The blocks are few enough to be counted. -/
def Grid.Fits (g : Grid) : Prop := g.across * g.down < wordCount 64

instance (g : Grid) : Decidable g.Fits := inferInstanceAs (Decidable (_ < _))

/-- A grid that fits has as many blocks as its rows hold. -/
theorem Grid.count_of_fits {g : Grid} (h : g.Fits) : g.count = g.across * g.down :=
  wordMul_of_lt h

/-- Whether there is no block at all. -/
def Grid.isEmpty (g : Grid) : Bool := g.count == 0

/-- The number of blocks of length `block` that cover `length`. -/
def blocksCovering (length block : Nat) : Nat := (length + (block - 1)) / block

/-- Something that is not empty is covered by at least one block. -/
theorem blocksCovering_pos {length block : Nat} (hlength : 0 < length) (hblock : 0 < block) :
    0 < blocksCovering length block :=
  Nat.div_pos (by omega) hblock

/-- The name of the output layer that holds the blocks of level `index`. -/
def layerName (index : Nat) : String :=
  if index = 0 then "main_image" else s!"overview_{index}"

namespace PyramidLevel

/-- The level of these sizes.  An empty raster is reported before an empty
block. -/
def make (index : Nat) (size blockSize : Size) : Except LevelFault PyramidLevel :=
  if hs : size.IsEmpty then .error (.rasterSize size)
  else if hb : blockSize.IsEmpty then .error (.blockSize blockSize)
  else .ok ⟨index, size, blockSize, hs, hb⟩

/-- A level has the index and the sizes it is made of. -/
theorem eq_of_make {index : Nat} {size blockSize : Size} {l : PyramidLevel}
    (h : make index size blockSize = .ok l) :
    l.index = index ∧ l.size = size ∧ l.blockSize = blockSize := by
  unfold make at h
  split at h
  · cases h
  · split at h
    · cases h
    · cases h
      exact ⟨rfl, rfl, rfl⟩

/-- Sizes that hold a pixel make a level. -/
theorem exists_make {size blockSize : Size} (index : Nat) (hsize : ¬ size.IsEmpty)
    (hblock : ¬ blockSize.IsEmpty) : ∃ l, make index size blockSize = .ok l := by
  unfold make
  rw [dif_neg hsize, dif_neg hblock]
  exact ⟨_, rfl⟩

/-- The blocks of a level: as many as cover it along each axis. -/
def grid (l : PyramidLevel) : Grid where
  across := blocksCovering l.size.width l.blockSize.width
  down := blocksCovering l.size.height l.blockSize.height

theorem blockSize_width_pos (l : PyramidLevel) : 0 < l.blockSize.width :=
  (Size.not_isEmpty.mp l.blockSize_nonempty).1

theorem blockSize_height_pos (l : PyramidLevel) : 0 < l.blockSize.height :=
  (Size.not_isEmpty.mp l.blockSize_nonempty).2

theorem size_width_pos (l : PyramidLevel) : 0 < l.size.width :=
  (Size.not_isEmpty.mp l.size_nonempty).1

theorem size_height_pos (l : PyramidLevel) : 0 < l.size.height :=
  (Size.not_isEmpty.mp l.size_nonempty).2

theorem grid_across_pos (l : PyramidLevel) : 0 < l.grid.across :=
  blocksCovering_pos l.size_width_pos l.blockSize_width_pos

theorem grid_down_pos (l : PyramidLevel) : 0 < l.grid.down :=
  blocksCovering_pos l.size_height_pos l.blockSize_height_pos

/-- A level whose blocks can be counted has a block. -/
theorem grid_count_pos {l : PyramidLevel} (h : l.grid.Fits) : 0 < l.grid.count :=
  (Grid.count_of_fits h).symm ▸ Nat.mul_pos l.grid_across_pos l.grid_down_pos

end PyramidLevel

end BlockExtent
