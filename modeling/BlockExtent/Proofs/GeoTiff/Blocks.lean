import BlockExtent.Proofs.GeoTiff.Limits
import BlockExtent.Proofs.GeoTiff.Offers

/-!
# What the blocks of an image are

The offsets and byte counts that a directory has tell whether its image comes in strips or in
tiles.  A block is a tile, or a strip that is cut at the end of the image.  Whether it is cut is
told by another tag, the width of a tile: a directory of strips that has this tag too keeps the
strips uncut, and its blocks may be taller than the image.

## Main definitions

* `Tiff.Directory.IsStripped`, `Tiff.Directory.IsTiled` — what the image of a directory comes in.
* `Page.TellsBlocks` — what the tags of an image tell of its blocks.
* `GeoTiffRaster.HasToldBlocks` — the blocks of a file are what the tags tell.
* `GeoTiffRaster.strayTileWidth` — a file whose block is taller than its image.

## Main results

* `Page.tellsBlocks_blockSize` — the blocks of an image, by the tags of its directory.
* `Page.TellsBlocks.eq_cut_iff` — when the strips of an image are cut.
* `GeoTiffRaster.hasToldBlocks` — **the blocks of every level of a file, by the tags of its
  directory.**
* `GeoTiffRaster.blockSize_strayTileWidth` — a block that is taller than the image.
-/

namespace BlockExtent

open Tiff

namespace Tiff.Directory

/-- An image comes in strips: they have offsets and byte counts, and tiles have not. -/
structure IsStripped (d : Directory) : Prop where
  stripOffsets : d.has .stripOffsets = true
  stripByteCounts : d.has .stripByteCounts = true
  tileOffsets : d.has .tileOffsets = false
  tileByteCounts : d.has .tileByteCounts = false

/-- An image comes in tiles: they have offsets and byte counts, and strips have not. -/
structure IsTiled (d : Directory) : Prop where
  stripOffsets : d.has .stripOffsets = false
  stripByteCounts : d.has .stripByteCounts = false
  tileOffsets : d.has .tileOffsets = true
  tileByteCounts : d.has .tileByteCounts = true

/-- No image comes in both. -/
theorem IsTiled.not_isStripped {d : Directory} (h : d.IsTiled) : ¬ d.IsStripped := by
  intro hstripped
  have hoffsets := h.stripOffsets
  rw [hstripped.stripOffsets] at hoffsets
  cases hoffsets

/-- What is required of a directory is there. -/
theorem field?_of_require {α : Type} {file : Container} {loading : Loading} {d : Directory}
    {tag : Tag} {use : Value → Except DecodeError α} {a : α}
    (h : d.require file loading tag use = .ok a) :
    ∃ value, d.field? file loading tag = .ok (some value) := by
  unfold require use? at h
  obtain ⟨used?, hused, h⟩ := bind_eq_ok h
  obtain ⟨value?, hvalue, hused⟩ := bind_eq_ok hused
  cases value? with
  | some value => exact ⟨value, hvalue⟩
  | none =>
    cases hused
    cases h

end Tiff.Directory

namespace Page

variable {file : Container} {loading : Loading} {d : Directory} {image : Image}

/-- What the tags of an image tell of its blocks. -/
inductive TellsBlocks (file : Container) (d : Directory) (image : Image) :
    Except DecodeError Size → Prop where
  /-- A tile is a block, however far it reaches. -/
  | tiles {width height : ℕ} (htiled : d.IsTiled)
      (hwidth : d.require file .unlimited .tileWidth Value.toWord32 = .ok width)
      (hheight : d.require file .unlimited .tileLength Value.toWord32 = .ok height) :
      TellsBlocks file d image (.ok ⟨width, height⟩)
  /-- A strip is a block up to the end of the image. -/
  | strips {rows? : Option ℕ} (hstripped : d.IsStripped)
      (hrows : d.use? file .unlimited .rowsPerStrip Value.toWord32 = .ok rows?)
      (hwidth : d.has .tileWidth = false) :
      TellsBlocks file d image
        (.ok ⟨image.size.width, min (rows?.getD image.size.height) image.size.height⟩)
  /-- With the width of a tile, a strip is a block however far it reaches. -/
  | uncut {rows? : Option ℕ} {value : Value} (hstripped : d.IsStripped)
      (hrows : d.use? file .unlimited .rowsPerStrip Value.toWord32 = .ok rows?)
      (hwidth : d.field? file .unlimited .tileWidth = .ok (some value)) :
      TellsBlocks file d image (.ok ⟨image.size.width, rows?.getD image.size.height⟩)
  /-- The width of a tile is looked at among strips too, and may be unreadable. -/
  | unreadable {cause : DecodeError} (hstripped : d.IsStripped)
      (hwidth : d.field? file .unlimited .tileWidth = .error cause) :
      TellsBlocks file d image (.error cause)

/-- The blocks of an image of tiles. -/
theorem tellsBlocks_of_readTiles {planes : ℕ} (htiled : d.IsTiled)
    (h : Image.readTiles file .unlimited d image.size planes = .ok image.layout) :
    TellsBlocks file d image (blockSize file d image) := by
  obtain ⟨tile, -, -, hlayout, -, hwidth, hheight, -⟩ := Image.readTiles_eq_ok h
  obtain ⟨value, hvalue⟩ := Directory.field?_of_require hwidth
  have hchunk : image.chunkSize = tile := by
    unfold Image.chunkSize
    rw [hlayout]
  unfold blockSize
  rw [hvalue, hchunk]
  exact .tiles htiled hwidth hheight

/-- The blocks of an image of strips. -/
theorem tellsBlocks_of_readStrips {planes : ℕ} (hstripped : d.IsStripped)
    (h : Image.readStrips file .unlimited d image.size planes = .ok image.layout) :
    TellsBlocks file d image (blockSize file d image) := by
  obtain ⟨rows?, -, -, hlayout, -, hrows, -⟩ := Image.readStrips_eq_ok h
  have hchunk : image.chunkSize = ⟨image.size.width, rows?.getD image.size.height⟩ := by
    unfold Image.chunkSize
    rw [hlayout]
  unfold blockSize
  rw [hchunk]
  -- nothing has been said of the width of a tile up to here
  cases hwidth : d.field? file .unlimited .tileWidth with
  | error cause => exact .unreadable hstripped hwidth
  | ok value? =>
    cases value? with
    | some value => exact .uncut hstripped hrows hwidth
    | none => exact .strips hstripped hrows (Directory.field?_eq_none_iff.mp hwidth)

/-- **The blocks of an image, by the tags of its directory.** -/
theorem tellsBlocks_blockSize (h : Image.ofDirectory file loading d = .ok image) :
    TellsBlocks file d image (blockSize file d image) := by
  obtain ⟨-, planes, hlayout⟩ := Image.ofDirectory_eq_ok (Image.ofDirectory_unlimited _ _ _ h)
  unfold Image.readLayout at hlayout
  split at hlayout
  · rename_i hoffsets hcounts htileOffsets htileCounts
    exact tellsBlocks_of_readStrips ⟨hoffsets, hcounts, htileOffsets, htileCounts⟩ hlayout
  · rename_i hstripOffsets hstripCounts hoffsets hcounts
    exact tellsBlocks_of_readTiles ⟨hstripOffsets, hstripCounts, hoffsets, hcounts⟩ hlayout
  · cases hlayout

/-- The strips of an image are cut at its end if there is no width of a tile, or if they need not
be cut anyway. -/
theorem TellsBlocks.eq_cut_iff {blocks : Except DecodeError Size} {rows? : Option ℕ}
    (h : TellsBlocks file d image blocks) (hstripped : d.IsStripped)
    (hrows : d.use? file .unlimited .rowsPerStrip Value.toWord32 = .ok rows?) :
    blocks = .ok ⟨image.size.width, min (rows?.getD image.size.height) image.size.height⟩
      ↔ d.has .tileWidth = false
        ∨ (∃ value, d.field? file .unlimited .tileWidth = .ok (some value))
          ∧ rows?.getD image.size.height ≤ image.size.height := by
  have hnone := @Directory.field?_eq_none_iff file .unlimited d .tileWidth
  cases h with
  | tiles htiled => exact absurd hstripped htiled.not_isStripped
  | strips _ hrows' hwidth =>
    rw [hrows] at hrows'
    cases hrows'
    exact iff_of_true rfl (.inl hwidth)
  | uncut _ hrows' hwidth =>
    rw [hrows] at hrows'
    cases hrows'
    have hcut : rows?.getD image.size.height = min (rows?.getD image.size.height) image.size.height
        ↔ rows?.getD image.size.height ≤ image.size.height := by omega
    rw [← hnone, hwidth]
    simp [hcut]
  | unreadable _ hwidth =>
    rw [← hnone, hwidth]
    simp

/-- The block of an image among the pages of a file is what the tags tell. -/
theorem tellsBlocks_of_ofDirectory {page : ImagePage}
    (h : ofDirectory file d loading = .ok (.image page)) :
    ∃ image, Image.ofDirectory file loading d = .ok image ∧ page.size = image.size
      ∧ TellsBlocks file d image (.ok page.blockSize) := by
  obtain ⟨image, kind?, himage, -, ⟨-, hmask⟩ | ⟨-, found, hfound, hsize, -, hblock⟩⟩ :=
    ofDirectory_eq_ok h
  · cases hmask
  · cases hfound
    refine ⟨image, himage, hsize, ?_⟩
    rw [← hblock]
    exact tellsBlocks_blockSize himage

end Page

/-! ### The levels of a file -/

namespace GeoTiffRaster

/-- The image of a level, which is one of those of the raster. -/
theorem exists_image_of_level {raster : GeoTiffRaster} {index : ℕ} {level : PyramidLevel}
    (h : raster.level index = .ok level) :
    ∃ image ∈ raster.base :: raster.overviews, level.size = image.size
      ∧ level.blockSize = image.blockSize := by
  unfold GeoTiffRaster.level at h
  rw [image?_eq_getElem?] at h
  split at h
  · cases h
  · rename_i image himage
    split at h
    · cases h
    · rename_i hmake
      cases h
      obtain ⟨-, hsize, hblock⟩ := PyramidLevel.eq_of_make hmake
      exact ⟨image, List.mem_of_getElem? himage, hsize, hblock⟩

/-- The blocks of a file are what the tags tell. -/
structure HasToldBlocks (source : ByteSource) : Prop where
  /-- Those of every image of the file. -/
  directory : ∀ file first position loading d image, Container.start source = .ok (file, first) →
    Directory.read file position = .ok d → Image.ofDirectory file loading d = .ok image →
    Page.TellsBlocks file d image (Page.blockSize file d image)
  /-- The strips of an image are cut unless it has the width of a tile and they are too tall. -/
  cut : ∀ file first position loading d image rows?, Container.start source = .ok (file, first) →
    Directory.read file position = .ok d → Image.ofDirectory file loading d = .ok image →
    d.IsStripped → d.use? file .unlimited .rowsPerStrip Value.toWord32 = .ok rows? →
    (Page.blockSize file d image
        = .ok ⟨image.size.width, min (rows?.getD image.size.height) image.size.height⟩
      ↔ d.has .tileWidth = false
        ∨ (∃ value, d.field? file .unlimited .tileWidth = .ok (some value))
          ∧ rows?.getD image.size.height ≤ image.size.height)
  /-- Those of every level that the file is opened with. -/
  level : ∀ path raster index level, readSource path source = .ok raster →
    raster.level index = .ok level →
    ∃ file first position loading d image, Container.start source = .ok (file, first)
      ∧ Directory.read file position = .ok d ∧ Image.ofDirectory file loading d = .ok image
      ∧ level.size = image.size ∧ Page.TellsBlocks file d image (.ok level.blockSize)

/-- **The blocks of every level of a file, by the tags of its directory.**  Tiles are never cut, and
strips are cut at the end of the image but for those of a directory with the width of a tile. -/
theorem hasToldBlocks (source : ByteSource) : HasToldBlocks source where
  directory _ _ _ _ _ _ _ _ himage := Page.tellsBlocks_blockSize himage
  cut _ _ _ _ _ _ _ _ _ himage hstripped hrows :=
    (Page.tellsBlocks_blockSize himage).eq_cut_iff hstripped hrows
  level path raster index level hread hlevel := by
    obtain ⟨page, hmem, hsize, hblock⟩ := exists_image_of_level hlevel
    obtain ⟨file, first, position, d, loading, hstart, hdirectory, hpage⟩ :=
      hasPage_of_readSource hread page hmem
    obtain ⟨image, himage, hpageSize, htells⟩ := Page.tellsBlocks_of_ofDirectory hpage
    rw [← hblock] at htells
    exact ⟨file, first, position, loading, d, image, hstart, hdirectory, himage,
      hsize.trans hpageSize, htells⟩

/-! ### A block that is taller than its image -/

/-- An image of four columns and three rows.  Its only strip would have ten rows, and the directory
has the width of a tile too. -/
def strayTileWidth : ByteSource :=
  .ofFile ⟨([0x49, 0x49, 42, 0] ++ littleBytes 4 8 ++ littleBytes 2 7
    ++ fieldBytes 256 4 1 4 ++ fieldBytes 257 4 1 3 ++ fieldBytes 262 3 1 1
    ++ fieldBytes 273 4 1 8 ++ fieldBytes 278 4 1 10 ++ fieldBytes 279 4 1 12
    ++ fieldBytes 322 4 1 16 ++ littleBytes 4 0).toArray⟩

/-- The only directory of `strayTileWidth`. -/
def strayTileWidthDirectory : Directory where
  entries :=
    [{ tag := 256, type := .long, count := 1, slot := littleBytes 4 4 },
      { tag := 257, type := .long, count := 1, slot := littleBytes 4 3 },
      { tag := 262, type := .short, count := 1, slot := littleBytes 4 1 },
      { tag := 273, type := .long, count := 1, slot := littleBytes 4 8 },
      { tag := 278, type := .long, count := 1, slot := littleBytes 4 10 },
      { tag := 279, type := .long, count := 1, slot := littleBytes 4 12 },
      { tag := 322, type := .long, count := 1, slot := littleBytes 4 16 }]
  next := 0

set_option maxRecDepth 4000 in
theorem start_strayTileWidth :
    Container.start strayTileWidth = .ok (Container.classic strayTileWidth, 8) := rfl

set_option maxRecDepth 4000 in
theorem read_strayTileWidth :
    Directory.read (Container.classic strayTileWidth) 8 = .ok strayTileWidthDirectory := rfl

theorem imageOfDirectory_strayTileWidth :
    Image.ofDirectory (Container.classic strayTileWidth) .limited strayTileWidthDirectory
      = .ok { size := ⟨4, 3⟩, layout := .strips 10 } := rfl

/-- The page of `strayTileWidthDirectory`. -/
def strayTileWidthPage : ImagePage where
  size := ⟨4, 3⟩
  blockSize := ⟨4, 10⟩
  reduced := false
  geo := some {}

theorem pageOfDirectory_strayTileWidth :
    Page.ofDirectory (Container.classic strayTileWidth) strayTileWidthDirectory .limited
      = .ok (.image strayTileWidthPage) := rfl

theorem pages_strayTileWidth :
    pages strayTileWidth = { visits := [.image strayTileWidthPage], fault := none } := by
  unfold pages
  rw [start_strayTileWidth]
  dsimp only
  exact Chain.followFrom_last read_strayTileWidth rfl pageOfDirectory_strayTileWidth

theorem isStripped_strayTileWidth : strayTileWidthDirectory.IsStripped := by
  constructor <;> rfl

/-- The tags of the directory tell of a block of ten rows. -/
theorem hasToldBlocks_strayTileWidth :
    Page.TellsBlocks (Container.classic strayTileWidth) strayTileWidthDirectory
      { size := ⟨4, 3⟩, layout := .strips 10 } (.ok ⟨4, 10⟩) :=
  (hasToldBlocks strayTileWidth).directory _ 8 8 .limited _ _ start_strayTileWidth
    read_strayTileWidth imageOfDirectory_strayTileWidth

/-- **The block of a stripped image may be taller than the image.**  The only level of the file is
one of three rows, and its block has ten. -/
theorem blockSize_strayTileWidth :
    strayTileWidthDirectory.IsStripped
      ∧ strayTileWidthDirectory.use? (Container.classic strayTileWidth) .unlimited .rowsPerStrip
        Value.toWord32 = .ok (some 10)
      ∧ ∃ raster level, readSource "test.tif" strayTileWidth = .ok raster
        ∧ raster.level 0 = .ok level ∧ level.size = ⟨4, 3⟩ ∧ level.blockSize = ⟨4, 10⟩
        ∧ level.blockSize ≠ ⟨level.size.width, min 10 level.size.height⟩ := by
  refine ⟨isStripped_strayTileWidth, rfl, ?_⟩
  rw [readSource_eq, pages_strayTileWidth]
  exact ⟨_, _, rfl, rfl, rfl, rfl, by decide⟩

end GeoTiffRaster

end BlockExtent
