import BlockExtent.Proofs.GeoTiff.Reader
import BlockExtent.Proofs.Tiff.Images

/-!
# The images of a raster that has been read

An image whose directory has been checked holds pixels, and so do its blocks: the sides of the
image, those of a tile and the rows of a strip are refused when they are zero.  This is carried
along from the directories to the raster, so that each level it offers can be made.

## Main definitions

* `ImagePage.IsUsable` — the image and its blocks hold pixels.
* `GeoTiffRaster.HasPage` — some directory of a file has a page.

## Main results

* `Tiff.Image.nonempty_of_ofDirectory`, `Page.isUsable_of_ofDirectory` — the checks of a
  directory.
* `Page.ofDirectory_eq_ok` — what was read for the page of a directory.
* `GeoTiffRaster.isUsable_of_readSource` — **the images of a raster that has been read.**
-/

namespace BlockExtent

open Tiff

/-! ### The image of a directory -/

namespace Tiff.Image

/-- **An image whose directory has been checked holds pixels**, and so do its pieces. -/
theorem nonempty_of_ofDirectory {file : Container} {loading : Loading} {d : Directory}
    {image : Image} (h : ofDirectory file loading d = .ok image) :
    ¬ image.size.IsEmpty ∧ ¬ image.chunkSize.IsEmpty := by
  obtain ⟨hsize, planes, hlayout⟩ := ofDirectory_eq_ok h
  have hnonempty := nonempty_of_readSize hsize
  refine ⟨hnonempty, ?_⟩
  unfold readLayout at hlayout
  unfold chunkSize
  split at hlayout
  · obtain ⟨rows?, -, -, hstrips, hrows, -⟩ := readStrips_eq_ok hlayout
    rw [hstrips]
    exact fun hempty => hempty.elim (fun hwidth => hnonempty (.inl hwidth)) hrows
  · obtain ⟨tile, -, -, htiles, htile, -⟩ := readTiles_eq_ok hlayout
    rw [htiles]
    exact htile
  · cases hlayout

end Tiff.Image

/-! ### The page of a directory -/

/-- An image and its blocks hold pixels. -/
def ImagePage.IsUsable (page : ImagePage) : Prop := ¬ page.size.IsEmpty ∧ ¬ page.blockSize.IsEmpty

namespace Page

variable {file : Container} {loading : Loading} {d : Directory} {image : Image}

/-- A strip that is cut at the end of the image holds pixels still. -/
theorem nonempty_of_blockSize {size : Size} (himage : ¬ image.size.IsEmpty)
    (hchunk : ¬ image.chunkSize.IsEmpty) (h : blockSize file d image = .ok size) :
    ¬ size.IsEmpty := by
  rw [Size.not_isEmpty] at himage
  have hpos := Size.not_isEmpty.mp hchunk
  unfold blockSize at h
  obtain ⟨tileWidth?, -, h⟩ := bind_eq_ok h
  split_ifs at h
  · cases h
    exact hchunk
  · cases h
    exact Size.not_isEmpty.mpr ⟨hpos.1, Nat.lt_min.mpr ⟨hpos.2, himage.2⟩⟩

/-- What was read for the page of a directory: its image, its kind, and for an image its blocks. -/
theorem ofDirectory_eq_ok {page : Page} (h : ofDirectory file d loading = .ok page) :
    ∃ image kind?, Image.ofDirectory file loading d = .ok image
      ∧ d.use? file .unlimited .newSubfileType Value.toWord32 = .ok kind?
      ∧ ((isMask file d (kind?.getD 0) = .ok true ∧ page = .mask (kind?.getD 0))
        ∨ isMask file d (kind?.getD 0) = .ok false
          ∧ ∃ found, page = .image found ∧ found.size = image.size
            ∧ found.reduced = (kind?.getD 0).testBit 0
            ∧ blockSize file d image = .ok found.blockSize) := by
  unfold ofDirectory at h
  obtain ⟨image, himage, h⟩ := bind_eq_ok h
  unfold ofImage at h
  obtain ⟨kind?, hkind, h⟩ := bind_eq_ok h
  obtain ⟨mask, hmask, h⟩ := bind_eq_ok h
  refine ⟨image, kind?, himage, hkind, ?_⟩
  cases mask with
  | true =>
    rw [if_pos rfl] at h
    cases h
    exact .inl ⟨hmask, rfl⟩
  | false =>
    rw [if_neg Bool.false_ne_true] at h
    obtain ⟨block, hblock, h⟩ := bind_eq_ok h
    -- whether the georeferencing is read makes no difference to the sizes
    split_ifs at h
    · cases h
      exact .inr ⟨hmask, _, rfl, rfl, rfl, hblock⟩
    · obtain ⟨geo, -, hpure⟩ := bind_eq_ok h
      cases hpure
      exact .inr ⟨hmask, _, rfl, rfl, rfl, hblock⟩

/-- **The images among the pages of a file are usable.** -/
theorem isUsable_of_ofDirectory {page : ImagePage}
    (h : ofDirectory file d loading = .ok (.image page)) : page.IsUsable := by
  obtain ⟨image, kind?, himage, -, ⟨-, hmask⟩ | ⟨-, found, hfound, hfoundSize, -, hblock⟩⟩ :=
    ofDirectory_eq_ok h
  · cases hmask
  · cases hfound
    obtain ⟨hsize, hchunk⟩ := Image.nonempty_of_ofDirectory himage
    unfold ImagePage.IsUsable
    rw [hfoundSize]
    exact ⟨hsize, nonempty_of_blockSize hsize hchunk hblock⟩

end Page

/-! ### The raster of a file -/

namespace GeoTiffRaster

/-- Some directory of a file has a page. -/
def HasPage (source : ByteSource) (page : Page) : Prop :=
  ∃ file first position d loading, Container.start source = .ok (file, first)
    ∧ Directory.read file position = .ok d ∧ Page.ofDirectory file d loading = .ok page

/-- Each page of a file is that of a directory. -/
theorem hasPage_of_mem_pages {source : ByteSource} {page : Page}
    (h : page ∈ (pages source).visits) : HasPage source page := by
  unfold pages at h
  split at h
  · cases h
  · rename_i file first hstart
    obtain ⟨loading, position, d, hread, hvisit⟩ := Chain.exists_visit_of_mem_followFrom h
    exact ⟨file, first, position, d, loading, hstart, hread, hvisit⟩

/-- The raster and its overviews are among the images. -/
theorem mem_of_pyramid? {images overviews : List ImagePage} {base : ImagePage}
    (h : pyramid? images = some (base, overviews)) :
    ∀ image ∈ base :: overviews, image ∈ images := by
  induction images with
  | nil => cases h
  | cons first rest ih =>
    rw [pyramid?] at h
    split at h
    · exact fun image hmem => List.mem_cons_of_mem first (ih h image hmem)
    · cases h
      refine List.forall_mem_cons.mpr ⟨List.mem_cons_self, fun image hmem => ?_⟩
      exact List.mem_cons_of_mem base (List.mem_of_mem_filter hmem)

/-- The images of a raster that has been read are those of directories of the file. -/
theorem hasPage_of_readSource {path : String} {source : ByteSource} {raster : GeoTiffRaster}
    (h : readSource path source = .ok raster) :
    ∀ image ∈ raster.base :: raster.overviews, HasPage source (.image image) := by
  have himages : ∀ image ∈ Page.images (pages source).visits, HasPage source (.image image) := by
    intro image hmem
    obtain ⟨page, hpage, himage⟩ := List.mem_filterMap.mp hmem
    cases page with
    | mask subfileType => cases himage
    | image found =>
      cases himage
      exact hasPage_of_mem_pages hpage
  rw [readSource_eq] at h
  unfold ofChain at h
  split at h
  · cases h
  · unfold ofImages at h
    split at h
    · cases h
    · rename_i base overviews hpyramid
      cases h
      exact fun image hmem => himages image (mem_of_pyramid? hpyramid image hmem)

/-- The images of a raster that has been read are usable. -/
theorem isUsable_of_readSource {path : String} {source : ByteSource} {raster : GeoTiffRaster}
    (h : readSource path source = .ok raster) :
    ∀ image ∈ raster.base :: raster.overviews, image.IsUsable := by
  intro image hmem
  obtain ⟨file, first, position, d, loading, -, -, hpage⟩ := hasPage_of_readSource h image hmem
  exact Page.isUsable_of_ofDirectory hpage

end GeoTiffRaster

end BlockExtent
