import BlockExtent.Proofs.GeoTiff.WrittenLimits

/-!
# Pyramids read back

The raster of the pages of written images is the pyramid of the first full image and
of the reduced ones behind it.

## Main definitions

* `Recovers` — a raster is the pyramid of a full image and its overviews.

## Main results

* `pyramid?_pagesOf` — the pyramid of written images.
* `GeoTiffRaster.read_fileBytes` — **a pyramid that was written is read.**
-/

namespace BlockExtent

open Tiff

/-! ### The raster of the pages -/

/-- The tags of an image behind some others. -/
def tagsBehind : (before : List WrittenImage) → WrittenTags → WrittenTags
  | [], tags => tags
  | _ :: _, _ => {}

theorem images_pagesOf_cons (image : WrittenImage) (images : List WrittenImage)
    (tags : WrittenTags) :
    Page.images (pagesOf (image :: images) tags)
      = if image.IsMask then Page.images (pagesOf images {})
        else image.imagePage tags :: Page.images (pagesOf images {}) := by
  rw [pagesOf]
  unfold WrittenImage.page
  by_cases hmask : image.IsMask
  · rw [if_pos hmask, if_pos hmask]
    rfl
  · rw [if_neg hmask, if_neg hmask]
    rfl

/-- What stands in front of the first full image is passed over. -/
theorem pyramid?_pagesOf_append {before : List WrittenImage} (rest : List WrittenImage)
    (tags : WrittenTags) (h : ∀ image ∈ before, ¬ image.IsFull) :
    pyramid? (Page.images (pagesOf (before ++ rest) tags))
      = pyramid? (Page.images (pagesOf rest (tagsBehind before tags))) := by
  induction before generalizing tags with
  | nil => rfl
  | cons image before ih =>
    have hrest := ih {} fun b hb => h b (List.mem_cons_of_mem image hb)
    have htags : tagsBehind before {} = tagsBehind (image :: before) tags := by
      cases before <;> rfl
    rw [htags] at hrest
    rw [List.cons_append, images_pagesOf_cons]
    by_cases hmask : image.IsMask
    · rw [if_pos hmask]
      exact hrest
    · have hreduced : (image.imagePage tags).reduced = true := by
        have hfull := h image List.mem_cons_self
        exact eq_true_of_ne_false fun hbit => hfull ⟨hmask, hbit⟩
      rw [if_neg hmask, pyramid?, if_pos hreduced]
      exact hrest

/-- The reduced images among the pages are those of the overviews. -/
theorem filter_reduced_pagesOf (images : List WrittenImage) :
    (Page.images (pagesOf images {})).filter ImagePage.reduced
      = (images.filter (decide ·.IsOverview)).map fun image => image.imagePage {} := by
  induction images with
  | nil => rfl
  | cons image images ih =>
    rw [images_pagesOf_cons, List.filter_cons]
    by_cases hmask : image.IsMask
    · have hoverview : ¬ image.IsOverview := fun h => h.1 hmask
      rw [if_pos hmask, if_neg (by simpa using hoverview), ih]
    · rw [if_neg hmask, List.filter_cons, ih]
      by_cases hbit : image.subfileType.testBit 0 = true
      · have hoverview : image.IsOverview := ⟨hmask, hbit⟩
        rw [if_pos (show (image.imagePage {}).reduced = true from hbit),
          if_pos (decide_eq_true hoverview), List.map_cons]
      · have hoverview : ¬ image.IsOverview := fun h => hbit h.2
        rw [if_neg (show ¬ (image.imagePage {}).reduced = true from hbit),
          if_neg (by simpa using hoverview)]

/-- The pyramid of written images is the first full one and the overviews behind it. -/
theorem pyramid?_pagesOf {before after : List WrittenImage} {base : WrittenImage}
    (tags : WrittenTags) (hbefore : ∀ image ∈ before, ¬ image.IsFull) (hbase : base.IsFull) :
    pyramid? (Page.images (pagesOf (before ++ base :: after) tags))
      = some (base.imagePage (tagsBehind before tags),
          (after.filter (decide ·.IsOverview)).map fun image => image.imagePage {}) := by
  have hreduced : ¬ (base.imagePage (tagsBehind before tags)).reduced = true := by
    rw [show (base.imagePage (tagsBehind before tags)).reduced = false from hbase.2]
    exact Bool.false_ne_true
  rw [pyramid?_pagesOf_append _ tags hbefore, images_pagesOf_cons, if_neg hbase.1, pyramid?,
    if_neg hreduced, filter_reduced_pagesOf]

/-- Without a full image there is no pyramid. -/
theorem pyramid?_pagesOf_eq_none {images : List WrittenImage} (tags : WrittenTags)
    (h : ∀ image ∈ images, ¬ image.IsFull) :
    pyramid? (Page.images (pagesOf images tags)) = none := by
  have happend := pyramid?_pagesOf_append [] tags h
  rw [List.append_nil] at happend
  rw [happend]
  rfl

/-! ### The raster of a written file -/

/-- A raster is the pyramid of a full image with tags, and of overviews. -/
structure Recovers (raster : GeoTiffRaster) (base : WrittenImage)
    (overviews : List WrittenImage) (tags : WrittenTags) : Prop where
  size_eq : raster.size = base.size
  overviewCount_eq : raster.overviewCount = overviews.length
  level_eq : ∀ index image, (base :: overviews)[index]? = some image →
    ∃ level, raster.level index = .ok level ∧ level.index = index ∧ level.size = image.size
      ∧ level.blockSize = image.blockSize
  level_behind : ∀ index, overviews.length < index →
    raster.level index = .error (.noSuchLevel (signedWord 64 index) overviews.length)
  geotransform_eq : raster.geotransform = tags.read.geotransform
  spatialReference_eq : raster.spatialReference
    = (tags.keyDirectory?.bind fun keys =>
        (keys.projectedType <|> keys.geographicType).filter fun code =>
          code ≠ 0 ∧ code ≠ 32767).map .epsg

namespace GeoTiffRaster

/-- What is read of a written file is the pyramid of its pages, if its images have no more tiles
and strips than are loaded. -/
theorem readSource_fileBytes (path : String) {source : ByteSource} {images : List WrittenImage}
    {tags : WrittenTags} (hne : images ≠ []) (hvalid : ∀ image ∈ images, image.IsValid)
    (htags : tags.IsValid) (hholds : Holds source 0 (fileBytes images tags))
    (hsize : source.bytes.size < 2 ^ 32) (hbound : source.bytes.size < source.positionBound) :
    readSource path source = ofImages path (Page.images (pagesOf images tags)) := by
  obtain ⟨image, rest, rfl⟩ := List.exists_cons_of_ne_nil hne
  have hwritable : ∀ written ∈ image :: rest, written.IsWritable := fun written hmem =>
    (hvalid written hmem).isWritable
  have hfew : ¬ listLimit < image.chunks := Nat.not_lt.mpr (hvalid image List.mem_cons_self).chunks_le
  rw [readSource_fileBytes_eq path hwritable htags hholds hsize hbound, if_neg hfew]

theorem readSource_fileSource (path : String) {images : List WrittenImage} {tags : WrittenTags}
    (hne : images ≠ []) (hvalid : ∀ image ∈ images, image.IsValid) (htags : tags.IsValid)
    (hsize : (fileBytes images tags).length < 2 ^ 32) :
    readSource path (fileSource images tags)
      = ofImages path (Page.images (pagesOf images tags)) := by
  have hholds : Holds (fileSource images tags) 0 (fileBytes images tags) :=
    ⟨[], [], by simp [fileSource, ByteSource.ofMemory], rfl⟩
  exact readSource_fileBytes path hne hvalid htags hholds hsize
    (Nat.lt_trans hsize (show 2 ^ 32 < 2 ^ 64 by decide))

end GeoTiffRaster

namespace WrittenImage.IsValid

variable {image : WrittenImage} (h : image.IsValid)
include h

theorem size_nonempty : ¬ image.size.IsEmpty := Size.not_isEmpty.mpr ⟨h.width_pos, h.height_pos⟩

theorem blockSize_nonempty : ¬ image.blockSize.IsEmpty := by
  rw [Size.not_isEmpty]
  unfold blockSize
  cases hcut : image.cut with
  | tiles side =>
    have hside := (h.isWritable.cut_bounds (.inl hcut)).1
    exact ⟨hside, hside⟩
  | strips rows =>
    have hrows := (h.isWritable.cut_bounds (.inr hcut)).1
    exact ⟨h.width_pos, Nat.lt_min.mpr ⟨hrows, h.height_pos⟩⟩

end WrittenImage.IsValid

/-- A full image and reduced ones make a pyramid. -/
theorem recovers_ofImages (path : String) {base : WrittenImage} {overviews : List WrittenImage}
    (tags : WrittenTags) (hvalid : ∀ image ∈ base :: overviews, image.IsValid) :
    Recovers
      { path
        base := base.imagePage tags
        overviews := overviews.map fun image => image.imagePage {}
        geotransform := tags.read.geotransform
        spatialReference := (tags.keyDirectory?.bind KeyDirectory.epsgCode?).map .epsg }
      base overviews tags where
  size_eq := rfl
  overviewCount_eq := List.length_map _
  level_eq := by
    intro index image himage
    have himage' := hvalid image (List.mem_of_getElem? himage)
    cases index with
    | zero =>
      obtain rfl : base = image := Option.some.inj himage
      exact GeoTiffRaster.level_eq_ok (base.imagePage tags) rfl himage'.size_nonempty
        himage'.blockSize_nonempty
    | succ index =>
      have hpage : (overviews.map fun image => image.imagePage {})[index]?
          = some (image.imagePage {}) := by
        rw [List.getElem?_map, show overviews[index]? = some image from himage]
        rfl
      exact GeoTiffRaster.level_eq_ok (image.imagePage {}) hpage himage'.size_nonempty
        himage'.blockSize_nonempty
  level_behind := by
    intro index hindex
    have hlength : (overviews.map fun image => image.imagePage {}).length = overviews.length :=
      List.length_map _
    rw [GeoTiffRaster.level_eq_error]
    · exact congrArg
        (fun count => Except.error (Failure.noSuchLevel (signedWord 64 index) count)) hlength
    · exact Nat.lt_of_le_of_lt (Nat.le_of_eq hlength) hindex
  geotransform_eq := rfl
  spatialReference_eq := rfl

/-- **A pyramid that was written is read.**  The raster is the first full image, its
levels are the overviews behind that image in their order, and it is georeferenced by
the tags of the first directory, if that is its own. -/
theorem GeoTiffRaster.read_fileBytes (path : String) {images : List WrittenImage}
    {tags : WrittenTags} (hne : images ≠ []) (hvalid : ∀ image ∈ images, image.IsValid)
    (htags : tags.IsValid) (hsize : (fileBytes images tags).length < 2 ^ 32) :
    (readSource path (fileSource images tags) = .error (.noFullImage path)
        ↔ ∀ image ∈ images, ¬ image.IsFull)
      ∧ ∀ before base after, images = before ++ base :: after →
        (∀ image ∈ before, ¬ image.IsFull) → base.IsFull →
        ∃ raster, readSource path (fileSource images tags) = .ok raster
          ∧ Recovers raster base (after.filter (decide ·.IsOverview)) (tagsBehind before tags) := by
  rw [readSource_fileSource path hne hvalid htags hsize]
  have hfound : ∀ before base after, images = before ++ base :: after →
      (∀ image ∈ before, ¬ image.IsFull) → base.IsFull →
      ∃ raster, ofImages path (Page.images (pagesOf images tags)) = .ok raster
        ∧ Recovers raster base (after.filter (decide ·.IsOverview)) (tagsBehind before tags) := by
    rintro before base after rfl hbefore hbase
    -- the overviews are among the images, so all of them are valid
    have hlevels : ∀ image ∈ base :: after.filter (decide ·.IsOverview), image.IsValid := by
      intro image himage
      refine hvalid image (List.mem_append_right before ?_)
      exact List.Sublist.mem himage (List.filter_sublist.cons_cons base)
    have hgeo : (base.imagePage (tagsBehind before tags)).geo
        = some (tagsBehind before tags).read := by
      unfold WrittenImage.imagePage
      rw [hbase.2]
      rfl
    unfold ofImages
    rw [pyramid?_pagesOf tags hbefore hbase]
    dsimp only
    rw [hgeo]
    exact ⟨_, rfl, recovers_ofImages path (tagsBehind before tags) hlevels⟩
  refine ⟨⟨?_, ?_⟩, hfound⟩
  · intro herror
    -- a file with a full image has a first one, and so a raster
    cases hfirst : images.find? (decide ·.IsFull) with
    | none =>
      intro image himage
      simpa using List.find?_eq_none.mp hfirst image himage
    | some base =>
      obtain ⟨hbase, before, after, himages, hbefore⟩ := List.find?_eq_some_iff_append.mp hfirst
      obtain ⟨raster, hraster, -⟩ := hfound before base after himages
        (fun image himage => by simpa using hbefore image himage) (by simpa using hbase)
      rw [hraster] at herror
      cases herror
  · intro hnone
    unfold ofImages
    rw [pyramid?_pagesOf_eq_none tags hnone]

/-- A mask in front of a full image of four tiles, and an overview of strips. -/
def maskedPyramid : List WrittenImage :=
  [{ subfileType := 4, photometric := 4, size := ⟨3, 2⟩, cut := .tiles 2 },
    { subfileType := 0, photometric := 1, size := ⟨3, 2⟩, cut := .tiles 2 },
    { subfileType := 1, photometric := 1, size := ⟨2, 1⟩, cut := .strips 4 }]

/-- The size of a pixel, and the keys of a projected system. -/
def pyramidTags : WrittenTags where
  pixelScale := some [60, 60, 0]
  tiepoints := some [0, 0, 0, 440720, 3751320, 0]
  keys := [1, 1, 0, 1, 3072, 0, 1, 32611]

/-- The pyramid of such a file has its overview, and the tags of the mask are not those
of the raster. -/
theorem GeoTiffRaster.read_maskedPyramid :
    maskedPyramid ≠ [] ∧ (∀ image ∈ maskedPyramid, image.IsValid) ∧ pyramidTags.IsValid
      ∧ (fileBytes maskedPyramid pyramidTags).length < 2 ^ 32
      ∧ ∃ raster, readSource "pyramid.tif" (fileSource maskedPyramid pyramidTags) = .ok raster
        ∧ Recovers raster ⟨0, 1, ⟨3, 2⟩, .tiles 2⟩ [⟨1, 1, ⟨2, 1⟩, .strips 4⟩] {} := by
  have hne : maskedPyramid ≠ [] := List.cons_ne_nil _ _
  have hvalid : ∀ image ∈ maskedPyramid, image.IsValid := by
    simp only [maskedPyramid, List.forall_mem_cons]
    refine ⟨?_, ?_, ?_, by rintro _ ⟨⟩⟩ <;> constructor <;> decide
  have htags : pyramidTags.IsValid := ⟨by decide, fun _ => by decide⟩
  have hsize : (fileBytes maskedPyramid pyramidTags).length < 2 ^ 32 := by decide +kernel
  exact ⟨hne, hvalid, htags, hsize,
    (read_fileBytes "pyramid.tif" hne hvalid htags hsize).2 [_] _ [_] rfl (by decide) (by decide)⟩

end BlockExtent
