import BlockExtent.Proofs.GeoTiff.Blocks
import BlockExtent.Proofs.Raster.Tiling

/-!
# The levels of a raster that has been read

The sides of an image and of its blocks are read as numbers of 32 bits.  So there are fewer than
`2 ^ 64` blocks, which can be counted, and since image and blocks hold pixels, every level that the
raster offers can be made and has a block.

## Main definitions

* `Size.FitsWord32` — both sides have 32 bits.
* `GeoTiffRaster.OffersLevels` — which levels there are, and what they are like.

## Main results

* `Tiff.Image.fitsWord32_of_ofDirectory` — the image of a directory and its pieces.
* `PyramidLevel.grid_fits` — the blocks of a level whose sides have 32 bits can be counted.
* `GeoTiffRaster.fits_of_level` — so can those of the levels of a raster that has been read.
* `GeoTiffRaster.offersLevels_of_readSource` — **every level of a raster that has been read is
  there.**
-/

namespace BlockExtent

open Tiff

/-! ### Sides of 32 bits -/

/-- Both sides are numbers of 32 bits. -/
def Size.FitsWord32 (size : Size) : Prop := size.width < 2 ^ 32 ∧ size.height < 2 ^ 32

namespace Tiff

/-- What is used as a number of 32 bits is one. -/
theorem Value.lt_of_toWord32 {value : Value} {n : ℕ} (h : value.toWord32 = .ok n) :
    n < 2 ^ 32 := by
  have hfitting : ∀ k, Scalar.fitting 32 k = .ok n → n < 2 ^ 32 := by
    intro k hk
    unfold Scalar.fitting at hk
    split_ifs at hk with hlt
    cases hk
    exact hlt
  cases value with
  | scalar element => cases element <;> first | exact hfitting _ h | cases h
  | text s => cases h
  | list elements => cases h

namespace Directory

variable {α : Type} {file : Container} {loading : Loading} {d : Directory} {tag : Tag}
  {use : Value → Except DecodeError α} {a : α}

/-- What a field is put to is what its value is put to. -/
theorem exists_use_of_use? (h : d.use? file loading tag use = .ok (some a)) :
    ∃ value, use value = .ok a := by
  unfold use? at h
  obtain ⟨value?, -, h⟩ := bind_eq_ok h
  cases value? with
  | none => cases h
  | some value =>
    obtain ⟨used, hused, hpure⟩ := bind_eq_ok h
    cases hpure
    exact ⟨value, hused⟩

/-- What a required field is put to is what its value is put to. -/
theorem exists_use_of_require (h : d.require file loading tag use = .ok a) :
    ∃ value, use value = .ok a := by
  unfold require at h
  obtain ⟨used?, hused, h⟩ := bind_eq_ok h
  cases used? with
  | none => cases h
  | some used =>
    cases h
    exact exists_use_of_use? hused

/-- A required number of 32 bits. -/
theorem lt_of_require {n : ℕ} (h : d.require file loading tag Value.toWord32 = .ok n) :
    n < 2 ^ 32 := by
  obtain ⟨value, hvalue⟩ := exists_use_of_require h
  exact Value.lt_of_toWord32 hvalue

/-- A number of 32 bits, or what stands for it. -/
theorem getD_lt_of_use? {n? : Option ℕ} {other : ℕ}
    (h : d.use? file loading tag Value.toWord32 = .ok n?) (hother : other < 2 ^ 32) :
    n?.getD other < 2 ^ 32 := by
  cases n? with
  | none => exact hother
  | some n =>
    obtain ⟨value, hvalue⟩ := exists_use_of_use? h
    exact Value.lt_of_toWord32 hvalue

end Directory

namespace Image

variable {file : Container} {loading : Loading} {d : Directory} {size : Size} {planes : ℕ}
  {image : Image}

theorem fitsWord32_of_readSize (h : readSize file loading d = .ok size) : size.FitsWord32 := by
  unfold readSize at h
  obtain ⟨width, hwidth, h⟩ := bind_eq_ok h
  obtain ⟨height, hheight, h⟩ := bind_eq_ok h
  split_ifs at h
  · cases h
  · cases h
    exact ⟨Directory.lt_of_require hwidth, Directory.lt_of_require hheight⟩

/-- **The sides of an image and of its pieces have 32 bits.** -/
theorem fitsWord32_of_ofDirectory (h : ofDirectory file loading d = .ok image) :
    image.size.FitsWord32 ∧ image.chunkSize.FitsWord32 := by
  obtain ⟨hsize, planes, hlayout⟩ := ofDirectory_eq_ok h
  have hfits := fitsWord32_of_readSize hsize
  refine ⟨hfits, ?_⟩
  unfold readLayout at hlayout
  unfold chunkSize
  split at hlayout
  · obtain ⟨rows?, -, -, hstrips, -, hrows, -⟩ := readStrips_eq_ok hlayout
    rw [hstrips]
    exact ⟨hfits.1, Directory.getD_lt_of_use? hrows hfits.2⟩
  · obtain ⟨tile, -, -, htiles, -, hwidth, hheight, -⟩ := readTiles_eq_ok hlayout
    rw [htiles]
    exact ⟨Directory.lt_of_require hwidth, Directory.lt_of_require hheight⟩
  · cases hlayout

end Image

end Tiff

/-- The sides of the images among the pages of a file, and of their blocks. -/
theorem Page.fitsWord32_of_ofDirectory {file : Container} {loading : Loading} {d : Directory}
    {page : ImagePage} (h : ofDirectory file d loading = .ok (.image page)) :
    page.size.FitsWord32 ∧ page.blockSize.FitsWord32 := by
  obtain ⟨image, himage, hsize, htells⟩ := tellsBlocks_of_ofDirectory h
  have hfits := (Image.fitsWord32_of_ofDirectory himage).1
  refine ⟨hsize ▸ hfits, ?_⟩
  -- strips are cut at the end of the image at most
  generalize hblock : page.blockSize = block at htells
  cases htells with
  | tiles _ hwidth hheight =>
    exact ⟨Directory.lt_of_require hwidth, Directory.lt_of_require hheight⟩
  | strips => exact ⟨hfits.1, (Nat.min_le_right _ _).trans_lt hfits.2⟩
  | uncut _ hrows => exact ⟨hfits.1, Directory.getD_lt_of_use? hrows hfits.2⟩

/-- The sides of the images of a raster that has been read. -/
theorem GeoTiffRaster.fitsWord32_of_readSource {path : String} {source : ByteSource}
    {raster : GeoTiffRaster} (h : readSource path source = .ok raster) :
    ∀ image ∈ raster.base :: raster.overviews,
      image.size.FitsWord32 ∧ image.blockSize.FitsWord32 := by
  intro image hmem
  obtain ⟨file, first, position, d, loading, -, -, hpage⟩ := hasPage_of_readSource h image hmem
  exact Page.fitsWord32_of_ofDirectory hpage

/-! ### Levels -/

/-- There are no more blocks than pixels. -/
theorem blocksCovering_le (length block : ℕ) (hblock : 0 < block) :
    blocksCovering length block ≤ length := by
  by_contra hlt
  have hmul := (lt_blocksCovering_iff hblock).mp (Nat.lt_of_not_le hlt)
  have := Nat.le_mul_of_pos_right length hblock
  omega

namespace PyramidLevel

variable {level : PyramidLevel} (hsize : level.size.FitsWord32)
include hsize

/-- Along each axis there are fewer than `2 ^ 32` blocks. -/
theorem grid_lt : level.grid.across < 2 ^ 32 ∧ level.grid.down < 2 ^ 32 :=
  ⟨(blocksCovering_le _ _ level.blockSize_width_pos).trans_lt hsize.1,
    (blocksCovering_le _ _ level.blockSize_height_pos).trans_lt hsize.2⟩

/-- **The blocks of a level whose sides have 32 bits can be counted.** -/
theorem grid_fits : level.grid.Fits :=
  calc level.grid.across * level.grid.down < 2 ^ 32 * 2 ^ 32 :=
        Nat.mul_lt_mul'' (grid_lt hsize).1 (grid_lt hsize).2
    _ = wordCount 64 := by decide

end PyramidLevel

namespace GeoTiffRaster

/-- The sides of a level of a raster that has been read, and of its blocks. -/
theorem fitsWord32_of_level {path : String} {source : ByteSource} {raster : GeoTiffRaster}
    (h : readSource path source = .ok raster) {index : ℕ} {level : PyramidLevel}
    (hlevel : raster.level index = .ok level) :
    level.size.FitsWord32 ∧ level.blockSize.FitsWord32 := by
  obtain ⟨image, hmem, hsize, hblock⟩ := exists_image_of_level hlevel
  rw [hsize, hblock]
  exact fitsWord32_of_readSource h image hmem

/-- The blocks of a level of a raster that has been read can be counted. -/
theorem fits_of_level {path : String} {source : ByteSource} {raster : GeoTiffRaster}
    (h : readSource path source = .ok raster) {index : ℕ} {level : PyramidLevel}
    (hlevel : raster.level index = .ok level) : level.grid.Fits :=
  PyramidLevel.grid_fits (fitsWord32_of_level h hlevel).1

/-- The levels of a raster are the full image and the overviews, all of them with pixels and
blocks, and there is none behind them. -/
structure OffersLevels (raster : GeoTiffRaster) : Prop where
  level_eq_ok : ∀ index ≤ raster.overviewCount, ∃ level, raster.level index = .ok level
    ∧ level.index = index
    ∧ (0 < level.size.width ∧ 0 < level.size.height)
    ∧ (0 < level.blockSize.width ∧ 0 < level.blockSize.height)
    ∧ 0 < level.grid.count
  level_eq_error : ∀ index, raster.overviewCount < index → index < 2 ^ 63 →
    raster.level index = .error (.noSuchLevel index raster.overviewCount)
  size_eq : ∃ level, raster.level 0 = .ok level ∧ raster.size = level.size

/-- **Every level of a raster that has been read is there.** -/
theorem offersLevels_of_readSource {path : String} {source : ByteSource} {raster : GeoTiffRaster}
    (h : readSource path source = .ok raster) : raster.OffersLevels where
  level_eq_ok index hindex := by
    have hlt : index < (raster.base :: raster.overviews).length := Nat.lt_succ_of_le hindex
    obtain ⟨hsize, hblock⟩ := isUsable_of_readSource h _ (List.getElem_mem hlt)
    obtain ⟨level, hlevel, hlevelIndex, -, -⟩ :=
      GeoTiffRaster.level_eq_ok _ (List.getElem?_eq_getElem hlt) hsize hblock
    exact ⟨level, hlevel, hlevelIndex, ⟨level.size_width_pos, level.size_height_pos⟩,
      ⟨level.blockSize_width_pos, level.blockSize_height_pos⟩,
      PyramidLevel.grid_count_pos (fits_of_level h hlevel)⟩
  level_eq_error index hindex hlt := by
    rw [GeoTiffRaster.level_eq_error hindex, signedWord_count hlt]
  size_eq := by
    obtain ⟨hsize, hblock⟩ := isUsable_of_readSource h _ List.mem_cons_self
    obtain ⟨level, hlevel, -, hlevelSize, -⟩ :=
      GeoTiffRaster.level_eq_ok raster.base (List.getElem?_cons_zero) hsize hblock
    exact ⟨level, hlevel, hlevelSize.symm⟩

end GeoTiffRaster

end BlockExtent
