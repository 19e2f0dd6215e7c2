import BlockExtent.Proofs.GeoTiff.Limits
import BlockExtent.Proofs.GeoTiff.WrittenChains

/-!
# The limit and written files

Whether a written file is read depends on the order of its images.  It is refused if the first
one has more tiles or strips than are loaded under the limit, and the same image does no harm
behind another one.

## Main results

* `WrittenImage.listsTooMany` — too many tiles or strips are too many in the directory.
* `GeoTiffRaster.readSource_fileBytes_eq` — **what is read of a written file, whatever the number
  of its tiles and strips.**
-/

namespace BlockExtent

open Tiff

/-! ### Lists of a directory -/

/-- A field of too many elements is too large in the directory that it is written to. -/
theorem Tiff.hasLarge_entriesOf {position next : ℕ} {fields : List Field} {tag : Tag}
    {data : FieldData} (hfield : fieldOf? fields tag = some data)
    (hlarge : Loading.limited.allows data.type data.count = false) :
    Directory.HasLarge { entries := entriesOf position fields, next } tag := by
  have hentry := findRev?_entriesOf tag position fields
  obtain ⟨field, hfound, rfl⟩ := Option.map_eq_some_iff.mp hfield
  rw [hfound] at hentry
  obtain ⟨before, after, -, hentry⟩ := hentry
  exact ⟨_, hentry, hlarge⟩

/-- An image of too many tiles or strips lists too many of them. -/
theorem WrittenImage.listsTooMany {image : WrittenImage} (hmany : listLimit < image.chunks)
    (tags : WrittenTags) (position next : ℕ) :
    Image.ListsTooMany
      { entries := entriesOf (image.payloadsAt position) (image.fields tags position), next } := by
  obtain ⟨tag, htag, hoffsets⟩ := image.exists_offsets tags (blockAt position)
  have hsubset : [Tag.stripOffsets, .tileOffsets]
      ⊆ [Tag.stripOffsets, .stripByteCounts, .tileOffsets, .tileByteCounts] := by decide
  refine ⟨tag, hsubset htag, hasLarge_entriesOf ((fieldOf?_fieldsOf _ tag).trans hoffsets) ?_⟩
  rw [FieldData.count_longs, List.length_replicate]
  exact decide_eq_false (Nat.not_le_of_lt hmany)

namespace GeoTiffRaster

/-! ### Files -/

/-- **What is read of a written file, whatever the number of its tiles and strips.**  Only the
first image may have too many of them. -/
theorem readSource_fileBytes_eq (path : String) {source : ByteSource} {image : WrittenImage}
    {images : List WrittenImage} {tags : WrittenTags}
    (hwritable : ∀ written ∈ image :: images, written.IsWritable) (htags : tags.IsValid)
    (hholds : Holds source 0 (fileBytes (image :: images) tags))
    (hsize : source.bytes.size < 2 ^ 32) (hbound : source.bytes.size < source.positionBound) :
    readSource path source
      = if listLimit < image.chunks then .error (.decode .limitsExceeded)
        else ofImages path (Page.images (pagesOf (image :: images) tags)) := by
  have himages := holds_imagesBytes hholds
  have hunlimited := WrittenImage.isLoaded_unlimited himages.left hsize
  split_ifs with hmany
  · have hrest := himages.right
    rw [WrittenImage.length_bytes] at hrest
    have hread := WrittenImage.read_directoryAt himages.left hsize hbound
      (Nat.lt_of_le_of_lt (firstAt_le_size hrest) hsize)
    have hpage := WrittenImage.pageOfDirectory_directoryAt himages.left hsize hbound
      (hwritable image List.mem_cons_self) hunlimited htags
    refine readSource_of_listsTooMany (start_fileBytes hsize hbound hholds) rfl hread ?_
      (WrittenImage.listsTooMany hmany tags 8 _) hpage
    -- the directory of the next image stands behind that of the first one
    cases images with
    | nil => exact .inl rfl
    | cons next images =>
      have hlt := (image.lt_directoryAt tags 8).2
      have hle := (next.lt_directoryAt {} (image.endAt tags 8)).1
      exact .inr (Nat.ne_of_gt (Nat.lt_of_lt_of_le hlt hle))
  · have hloaded : image.IsLoaded .limited :=
      ⟨hunlimited.length_lt, decide_eq_true (Nat.le_of_not_lt hmany)⟩
    rw [readSource_eq, pages_fileBytes hsize hbound image images hholds hwritable hloaded htags]
    rfl

end GeoTiffRaster

end BlockExtent
