import BlockExtent.Proofs.GeoTiff.Levels
import BlockExtent.Proofs.Number.Rescaling

/-!
# Counting blocks in machine words

The sides of an image and of its blocks are read as numbers of 32 bits.  So there are fewer than
`2 ^ 64` blocks, and since a block begins inside of its image, so is its first pixel: no product
of its position and its size needs more than 32 bits, however large the block itself is.  A scan
that counts in words of 64 bits, where a product might wrap around, yields the same rectangles,
and none of its numbers is rounded when it becomes a coordinate.

## Main definitions

* `Size.IsConverted` — both sides are converted exactly.
* `BlockRectangle.ofWords`, `PyramidLevel.wordTiles` — the rectangles, counted in words.
* `PyramidLevel.StaysInWords` — a level is counted in words and converted exactly.
* `GeoTiffRaster.vastTile` — a file whose tile has the largest sides.

## Main results

* `PyramidLevel.staysInWords` — a level whose sides have 32 bits.
* `GeoTiffRaster.staysInWords_of_readSource` — **every level of a raster that has been read.**
-/

namespace BlockExtent

open Tiff Binary64

/-! ### Counting in words -/

/-- The number of blocks of length `block` that cover `length`, in words. -/
def wordsCovering (length block : UInt64) : UInt64 :=
  if 0 < length % block then length / block + 1 else length / block

/-- The rectangle of a block whose position and size are words, the products of which may wrap
around. -/
def BlockRectangle.ofWords (level : ℕ) (t : Geotransform Float)
    (width height column row : UInt64) : BlockRectangle Float :=
  let yMax := t.originY + (row * height).toFloat * t.pixelHeight
  let xMin := t.originX + (column * width).toFloat * t.pixelWidth
  { level, column := column.toNat, row := row.toNat, xMin, yMax
    yMin := yMax + height.toFloat * t.pixelHeight
    xMax := xMin + width.toFloat * t.pixelWidth }

/-- The rectangles of the blocks of a level, counted in words. -/
def PyramidLevel.wordTiles (level : PyramidLevel) (t : Geotransform Float) :
    List (BlockRectangle Float) :=
  let width := UInt64.ofNat level.blockSize.width
  let height := UInt64.ofNat level.blockSize.height
  let across := wordsCovering (.ofNat level.size.width) width
  let down := wordsCovering (.ofNat level.size.height) height
  (List.range (across * down).toNat).map fun k =>
    .ofWords level.index t width height (.ofNat k % across) (.ofNat k / across)

/-- The blocks that cover something are the full ones, and one more for what is left. -/
theorem blocksCovering_eq (length : ℕ) {block : ℕ} (hblock : 0 < block) :
    blocksCovering length block
      = if 0 < length % block then length / block + 1 else length / block := by
  have hlt : block - 1 < block := Nat.sub_lt hblock Nat.one_pos
  unfold blocksCovering
  rw [Nat.add_div hblock, Nat.div_eq_of_lt hlt, Nat.mod_eq_of_lt hlt]
  split_ifs <;> omega

/-- Blocks are counted in words as they are in natural numbers. -/
theorem wordsCovering_ofNat {length block : ℕ} (hlength : length < 2 ^ 32) (hblock : 0 < block)
    (hblock' : block < 2 ^ 32) :
    wordsCovering (.ofNat length) (.ofNat block) = .ofNat (blocksCovering length block) := by
  have hrem : length % block < UInt64.size :=
    ((Nat.mod_lt length hblock).trans hblock').trans (by decide)
  have hrest : 0 < UInt64.ofNat (length % block) ↔ 0 < length % block := by
    rw [UInt64.lt_iff_toNat_lt, UInt64.toNat_ofNat_of_lt' hrem, UInt64.toNat_zero]
  have hlength64 : length < 2 ^ 64 := hlength.trans (by decide)
  have hblock64 : block < 2 ^ 64 := hblock'.trans (by decide)
  unfold wordsCovering
  rw [blocksCovering_eq length hblock, ← UInt64.ofNat_mod hlength64 hblock64,
    ← UInt64.ofNat_div hlength64 hblock64]
  by_cases hpos : 0 < length % block
  · rw [if_pos (hrest.mpr hpos), if_pos hpos, UInt64.ofNat_add]
    rfl
  · rw [if_neg (mt hrest.mp hpos), if_neg hpos]

/-- A rectangle of words is that of their numbers, if no product has more bits than a
coordinate. -/
theorem BlockRectangle.ofWords_eq (level : ℕ) (t : Geotransform Float) {width height column row : ℕ}
    (hwidth : width < 2 ^ 53) (hheight : height < 2 ^ 53) (hcolumn : column < 2 ^ 53)
    (hrow : row < 2 ^ 53) (hleft : column * width < 2 ^ 53) (htop : row * height < 2 ^ 53) :
    ofWords level t (.ofNat width) (.ofNat height) (.ofNat column) (.ofNat row)
      = ofBlock level t ⟨width, height⟩ column row := by
  unfold ofWords ofBlock
  rw [← UInt64.ofNat_mul, ← UInt64.ofNat_mul, toFloat_ofNat hwidth, toFloat_ofNat hheight,
    toFloat_ofNat hleft, toFloat_ofNat htop, UInt64.toNat_ofNat_of_lt' (hcolumn.trans (by decide)),
    UInt64.toNat_ofNat_of_lt' (hrow.trans (by decide))]
  rfl

/-! ### Levels -/

/-- A natural number becomes a coordinate without rounding. -/
def IsConverted (n : ℕ) : Prop :=
  ∃ m e, ofFloat (Coordinate.ofNat n) = .finite false m e ∧ (m * 2 ^ e : ℚ) = n

/-- Both sides become coordinates without rounding. -/
def Size.IsConverted (size : Size) : Prop :=
  BlockExtent.IsConverted size.width ∧ BlockExtent.IsConverted size.height

theorem isConverted_of_lt {n : ℕ} (h : n < 2 ^ 32) : IsConverted n := by
  rcases Nat.eq_zero_or_pos n with rfl | hpos
  · refine ⟨0, -1074, ?_, by norm_num⟩
    decide +kernel
  · obtain ⟨m, e, hofNat, -, hvalue⟩ := ofFloat_ofNat hpos (h.trans (by decide))
    exact ⟨m, e, hofNat, hvalue⟩

theorem Size.FitsWord32.isConverted {size : Size} (h : size.FitsWord32) : size.IsConverted :=
  ⟨isConverted_of_lt h.1, isConverted_of_lt h.2⟩

namespace PyramidLevel

/-- A level is counted in words of 64 bits, and its numbers become coordinates without
rounding. -/
structure StaysInWords (level : PyramidLevel) : Prop where
  /-- The level has sides of 32 bits. -/
  size : level.size.FitsWord32
  /-- So have its blocks. -/
  blockSize : level.blockSize.FitsWord32
  /-- The number of its blocks has 64 bits. -/
  count_lt : level.grid.across * level.grid.down < 2 ^ 64
  /-- Counting in words yields its blocks, row by row, and so does a scan. -/
  wordTiles_eq : ∀ t : Geotransform Float, level.wordTiles t = level.rowMajor t
  toList_eq : ∀ t : Geotransform Float, (BlockScan.ofLevel level t).toList = level.rowMajor t
  /-- A block begins inside of the level. -/
  tile_lt : ∀ t : Geotransform Float, ∀ tile ∈ (BlockScan.ofLevel level t).toList,
    tile.column * level.blockSize.width < level.size.width
      ∧ tile.row * level.blockSize.height < level.size.height
  /-- The sizes are converted exactly. -/
  sizes_converted : level.size.IsConverted ∧ level.blockSize.IsConverted
  /-- So is where a block begins. -/
  tile_converted : ∀ t : Geotransform Float, ∀ tile ∈ (BlockScan.ofLevel level t).toList,
    IsConverted (tile.column * level.blockSize.width)
      ∧ IsConverted (tile.row * level.blockSize.height)

variable {level : PyramidLevel}

/-- A block begins inside of its level. -/
theorem tile_mul_lt {α : Type} [Coordinate α] {t : Geotransform α} {tile : BlockRectangle α}
    (h : tile ∈ level.rowMajor t) :
    tile.column * level.blockSize.width < level.size.width
      ∧ tile.row * level.blockSize.height < level.size.height := by
  obtain ⟨column, hcolumn, row, hrow, rfl⟩ := mem_rowMajor.mp h
  exact ⟨(lt_blocksCovering_iff level.blockSize_width_pos).mp hcolumn,
    (lt_blocksCovering_iff level.blockSize_height_pos).mp hrow⟩

section

variable (hsize : level.size.FitsWord32)
include hsize

variable (hblock : level.blockSize.FitsWord32)
include hblock

/-- **Counting in words yields the blocks of a level.** -/
theorem wordTiles_eq (t : Geotransform Float) : level.wordTiles t = level.rowMajor t := by
  obtain ⟨hacross, hdown⟩ := grid_lt hsize
  have hcount : level.grid.across * level.grid.down < 2 ^ 64 := grid_fits hsize
  have hacrossWord : wordsCovering (.ofNat level.size.width) (.ofNat level.blockSize.width)
      = .ofNat level.grid.across :=
    wordsCovering_ofNat hsize.1 level.blockSize_width_pos hblock.1
  have hdownWord : wordsCovering (.ofNat level.size.height) (.ofNat level.blockSize.height)
      = .ofNat level.grid.down :=
    wordsCovering_ofNat hsize.2 level.blockSize_height_pos hblock.2
  have hcountWord : (UInt64.ofNat level.grid.across * UInt64.ofNat level.grid.down).toNat
      = level.grid.across * level.grid.down := by
    rw [← UInt64.ofNat_mul]
    exact UInt64.toNat_ofNat_of_lt' hcount
  unfold wordTiles
  dsimp only
  rw [hacrossWord, hdownWord, hcountWord, level.rowMajor_eq_map]
  refine List.map_congr_left fun k hk => ?_
  have hlt : k < level.grid.across * level.grid.down := List.mem_range.mp hk
  have hcolumn := Nat.mod_lt k level.grid_across_pos
  have hrow : k / level.grid.across < level.grid.down := Nat.div_lt_of_lt_mul hlt
  have hleft := (lt_blocksCovering_iff level.blockSize_width_pos).mp hcolumn
  have htop := (lt_blocksCovering_iff level.blockSize_height_pos).mp hrow
  obtain ⟨hsizeWidth, hsizeHeight⟩ := hsize
  obtain ⟨hblockWidth, hblockHeight⟩ := hblock
  rw [← UInt64.ofNat_mod (hlt.trans hcount) (hacross.trans (by decide)),
    ← UInt64.ofNat_div (hlt.trans hcount) (hacross.trans (by decide))]
  exact BlockRectangle.ofWords_eq _ t (by omega) (by omega) (by omega) (by omega) (by omega)
    (by omega)

/-- **A level whose sides have 32 bits is counted in words.** -/
theorem staysInWords : level.StaysInWords where
  size := hsize
  blockSize := hblock
  count_lt := grid_fits hsize
  wordTiles_eq := wordTiles_eq hsize hblock
  toList_eq := toList_ofLevel_eq_rowMajor (grid_fits hsize)
  tile_lt t _ htile := tile_mul_lt (toList_ofLevel_eq_rowMajor (grid_fits hsize) t ▸ htile)
  sizes_converted := ⟨hsize.isConverted, hblock.isConverted⟩
  tile_converted t tile htile := by
    rw [toList_ofLevel_eq_rowMajor (grid_fits hsize)] at htile
    obtain ⟨hleft, htop⟩ := tile_mul_lt htile
    exact ⟨isConverted_of_lt (hleft.trans hsize.1), isConverted_of_lt (htop.trans hsize.2)⟩

end

end PyramidLevel

/-! ### The raster of a file -/

namespace GeoTiffRaster

/-- The levels of a raster are counted in words, and its size is converted exactly. -/
structure StaysInWords (raster : GeoTiffRaster) : Prop where
  /-- The raster has sides of 32 bits. -/
  size : raster.size.FitsWord32 ∧ raster.size.IsConverted
  /-- Each of its levels is counted in words. -/
  level : ∀ index level, raster.level index = .ok level → level.StaysInWords

/-- **The levels of a raster that has been read are counted in words**, and their numbers become
coordinates without rounding. -/
theorem staysInWords_of_readSource {path : String} {source : ByteSource} {raster : GeoTiffRaster}
    (h : readSource path source = .ok raster) : raster.StaysInWords where
  size := by
    obtain ⟨hsize, -⟩ := fitsWord32_of_readSource h raster.base List.mem_cons_self
    exact ⟨hsize, hsize.isConverted⟩
  level index level hlevel := by
    obtain ⟨hsize, hblock⟩ := fitsWord32_of_level h hlevel
    exact PyramidLevel.staysInWords hsize hblock

/-! ### A tile that is far larger than its image -/

/-- An image of four columns and three rows in a tile with the largest sides. -/
def vastTile : ByteSource :=
  .ofFile ⟨([0x49, 0x49, 42, 0] ++ littleBytes 4 8 ++ littleBytes 2 7
    ++ fieldBytes 256 4 1 4 ++ fieldBytes 257 4 1 3 ++ fieldBytes 262 3 1 1
    ++ fieldBytes 322 4 1 4294967295 ++ fieldBytes 323 4 1 4294967295
    ++ fieldBytes 324 4 1 8 ++ fieldBytes 325 4 1 12 ++ littleBytes 4 0).toArray⟩

/-- The only directory of `vastTile`. -/
def vastTileDirectory : Directory where
  entries :=
    [{ tag := 256, type := .long, count := 1, slot := littleBytes 4 4 },
      { tag := 257, type := .long, count := 1, slot := littleBytes 4 3 },
      { tag := 262, type := .short, count := 1, slot := littleBytes 4 1 },
      { tag := 322, type := .long, count := 1, slot := littleBytes 4 4294967295 },
      { tag := 323, type := .long, count := 1, slot := littleBytes 4 4294967295 },
      { tag := 324, type := .long, count := 1, slot := littleBytes 4 8 },
      { tag := 325, type := .long, count := 1, slot := littleBytes 4 12 }]
  next := 0

/-- The page of `vastTileDirectory`. -/
def vastTilePage : ImagePage where
  size := ⟨4, 3⟩
  blockSize := ⟨4294967295, 4294967295⟩
  reduced := false
  geo := some {}

set_option maxRecDepth 4000 in
theorem pages_vastTile :
    pages vastTile = { visits := [.image vastTilePage], fault := none } := by
  have hstart : Container.start vastTile = .ok (Container.classic vastTile, 8) := rfl
  have hread : Directory.read (Container.classic vastTile) 8 = .ok vastTileDirectory := rfl
  have hpage : Page.ofDirectory (Container.classic vastTile) vastTileDirectory .limited
      = .ok (.image vastTilePage) := rfl
  unfold pages
  rw [hstart]
  exact Chain.followFrom_last hread rfl hpage

/-- **A tile with the largest sides** is the only block of its level, and is counted in words. -/
theorem staysInWords_vastTile :
    ∃ raster level, readSource "test.tif" vastTile = .ok raster ∧ raster.level 0 = .ok level
      ∧ level.size = ⟨4, 3⟩ ∧ level.blockSize = ⟨2 ^ 32 - 1, 2 ^ 32 - 1⟩
      ∧ level.grid = ⟨1, 1⟩ ∧ level.StaysInWords := by
  have hread : ∃ raster level, readSource "test.tif" vastTile = .ok raster
      ∧ raster.level 0 = .ok level ∧ level.size = ⟨4, 3⟩
      ∧ level.blockSize = ⟨2 ^ 32 - 1, 2 ^ 32 - 1⟩ ∧ level.grid = ⟨1, 1⟩ := by
    rw [readSource_eq, pages_vastTile]
    exact ⟨_, _, rfl, rfl, rfl, rfl, rfl⟩
  obtain ⟨raster, level, hraster, hlevel, hsize, hblock, hgrid⟩ := hread
  exact ⟨raster, level, hraster, hlevel, hsize, hblock, hgrid,
    (staysInWords_of_readSource hraster).level 0 level hlevel⟩

end GeoTiffRaster

end BlockExtent
