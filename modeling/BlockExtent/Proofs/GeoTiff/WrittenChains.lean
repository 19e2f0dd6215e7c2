import BlockExtent.Proofs.GeoTiff.Pages
import BlockExtent.Proofs.GeoTiff.Reader

/-!
# The chain of written images

The directories of a written file are chained in the order of the images, each behind
the one before it.  Following the chain gives the page of every image.

## Main definitions

* `pagesOf` — the pages of the images of a file.

## Main results

* `ascends_imagesBytes`, `pages_fileBytes` — the chain of written images.
-/

namespace BlockExtent

open Tiff

/-! ### The directory of an image -/

namespace Tiff.FieldData

theorem count_le_length_bytes (data : FieldData) : data.count ≤ data.bytes.length := by
  rw [data.length_bytes]
  exact Nat.le_mul_of_pos_right _ data.type.size_pos

/-- A field is as long as the payloads, but for what its entry has room for. -/
theorem length_bytes_le {fields : List Field} {field : Field} (h : field ∈ fields) :
    field.data.bytes.length ≤ (payloads fields).length + 4 := by
  by_cases hle : field.data.bytes.length ≤ 4
  · omega
  · have hpayload : field.data.payload = field.data.bytes := if_neg hle
    have hsublist := (List.sublist_flatten_of_mem
      (List.mem_map_of_mem (f := fun f : Field => f.data.payload) h)).length_le
    rw [hpayload] at hsublist
    unfold payloads
    rw [List.flatMap_def]
    omega

end Tiff.FieldData

namespace WrittenImage

variable {image : WrittenImage} {tags : WrittenTags} {position next : Nat} {source : ByteSource}

theorem length_bytes (image : WrittenImage) (tags : WrittenTags) (position next : Nat) :
    position + (image.bytes tags position next).length = image.endAt tags position := by
  unfold bytes endAt directoryAt payloadsAt blockAt
  simp only [List.length_append, List.length_replicate, length_directoryBytes]
  omega

theorem lt_directoryAt (image : WrittenImage) (tags : WrittenTags) (position : Nat) :
    position ≤ image.directoryAt tags position
      ∧ image.directoryAt tags position < image.endAt tags position := by
  unfold endAt directoryAt payloadsAt blockAt
  omega

section Directory

variable (h : Holds source position (image.bytes tags position next))
  (hsize : source.bytes.size < 2 ^ 32)
include h

/-- The payloads of the fields, and the directory behind them. -/
private theorem holds_payloads :
    Holds source (image.payloadsAt position) (payloads (image.fields tags position))
      ∧ Holds source (image.directoryAt tags position)
        (directoryBytes (image.payloadsAt position) (image.fields tags position) next) := by
  have hblock := h.right
  rw [List.length_replicate] at hblock
  have hpayloads := hblock.right
  rw [List.length_replicate] at hpayloads
  exact ⟨hpayloads.left, hpayloads.right⟩

private theorem endAt_le_size : image.endAt tags position ≤ source.bytes.size := by
  rw [← image.length_bytes tags position next]
  exact h.le_size

include hsize

/-- The fields are small enough to be counted, since they are in the file. -/
private theorem length_bytes_lt {field : Field} (hfield : field ∈ image.fields tags position) :
    field.data.bytes.length < 2 ^ 32 := by
  have hle := FieldData.length_bytes_le hfield
  have hend := endAt_le_size h
  unfold endAt directoryAt at hend
  omega

/-- The tiles or strips of an image in a file are loaded without a limit. -/
theorem isLoaded_unlimited : image.IsLoaded .unlimited where
  length_lt := by
    obtain ⟨tag, -, htag⟩ := image.exists_offsets tags (blockAt position)
    have hfield : (⟨tag.code, .longs (List.replicate image.chunks (blockAt position))⟩ : Field)
        ∈ image.fields tags position := mem_fieldsOf.mpr ⟨tag, htag, rfl⟩
    have hlength := length_bytes_lt h hsize hfield
    rw [FieldData.length_bytes, FieldData.count_longs, List.length_replicate] at hlength
    exact hlength
  allows := rfl

variable (hbound : source.bytes.size < source.positionBound)
include hbound

theorem read_directoryAt (hnext : next < 2 ^ 32) :
    Directory.read (Container.classic source) (image.directoryAt tags position)
      = .ok { entries := entriesOf (image.payloadsAt position) (image.fields tags position)
              next := next } := by
  refine Directory.read_directoryBytes hbound (holds_payloads h).2 ?_ ?_ hnext
  · intro field hfield
    obtain ⟨tag, -, htag⟩ := mem_fieldsOf.mp hfield
    have hcount := field.data.count_le_length_bytes
    have hlength := length_bytes_lt h hsize hfield
    exact ⟨htag ▸ tag.code_lt, by omega⟩
  · have hle := length_fieldsOf_le (image.table tags (blockAt position))
    unfold fields
    omega

theorem hasTable_directoryAt :
    HasTable (Container.classic source)
      { entries := entriesOf (image.payloadsAt position) (image.fields tags position)
        next := next }
      (image.table tags (blockAt position)) where
  field?_eq loading tag hfits := by
    have hend := endAt_le_size h
    have hlt := (image.lt_directoryAt tags position).2
    have htable := fieldOf?_fieldsOf (image.table tags (blockAt position)) tag
    rw [← htable]
    refine Directory.field?_eq hbound (holds_payloads h).1 ?_ ?_
    · unfold directoryAt at hlt
      omega
    · intro field hfield htag
      obtain ⟨other, hdata, hother⟩ := mem_fieldsOf.mp hfield
      rw [htag] at hother
      rw [← Tag.code_injective hother] at hdata
      exact hfits field.data hdata
  has_eq tag := by
    rw [Directory.has_eq]
    exact congrArg Option.isSome (fieldOf?_fieldsOf _ tag)

/-- The page at the position of the directory of an image is that of the image. -/
theorem pageOfDirectory_directoryAt (hwritable : image.IsWritable)
    {loading : Loading} (hloaded : image.IsLoaded loading) (htags : tags.IsValid) :
    Page.ofDirectory (Container.classic source)
        { entries := entriesOf (image.payloadsAt position) (image.fields tags position)
          next := next } loading
      = .ok (image.page tags) := by
  have hend := endAt_le_size h
  have hlt := (image.lt_directoryAt tags position).2
  unfold directoryAt payloadsAt at hlt
  refine pageOfDirectory_eq (hasTable_directoryAt h hsize hbound) hwritable loading hloaded
    (by omega) (by omega) htags ?_
  intro tag data hdata
  have hfield : (⟨tag.code, data⟩ : Field) ∈ image.fields tags position :=
    mem_fieldsOf.mpr ⟨tag, hdata, rfl⟩
  exact length_bytes_lt h hsize hfield

end Directory

end WrittenImage

/-! ### The chain of images -/

/-- The pages of the images of a file.  Only the first one has tags. -/
def pagesOf : (images : List WrittenImage) → WrittenTags → List Page
  | [], _ => []
  | image :: images, tags => image.page tags :: pagesOf images {}

/-- The visit of a directory by the reader. -/
abbrev visitPage (source : ByteSource) (loading : Loading) (d : Directory) :
    Except DecodeError Page :=
  Page.ofDirectory (Container.classic source) d loading

theorem WrittenTags.isValid_empty : ({} : WrittenTags).IsValid where
  keys_lt := by
    intro n hn
    cases hn
  keys_ok h := absurd rfl h

section Chain

variable {source : ByteSource}

/-- There is no directory behind the file. -/
theorem firstAt_le_size {images : List WrittenImage} {tags : WrittenTags} {position : Nat}
    (h : Holds source position (imagesBytes images tags position)) :
    firstAt images tags position ≤ source.bytes.size := by
  cases images with
  | nil => exact Nat.zero_le _
  | cons image images =>
    have hend := WrittenImage.endAt_le_size h.left
    have hlt := (image.lt_directoryAt tags position).2
    exact Nat.le_trans (Nat.le_of_lt hlt) hend

/-- The images of a written file stand behind its header. -/
theorem holds_imagesBytes {images : List WrittenImage} {tags : WrittenTags}
    (h : Holds source 0 (fileBytes images tags)) :
    Holds source 8 (imagesBytes images tags 8) := by
  have himages := h.right.right.right
  rw [length_littleBytes, length_littleBytes] at himages
  exact himages

variable (hsize : source.bytes.size < 2 ^ 32)
  (hbound : source.bytes.size < source.positionBound)
include hsize hbound

/-- **The directories of written images lie one behind the other**, and they have the pages of the
images. -/
theorem ascends_imagesBytes (image : WrittenImage) (images : List WrittenImage)
    {loading : Loading} {tags : WrittenTags} {position : Nat}
    (h : Holds source position (imagesBytes (image :: images) tags position))
    (hwritable : ∀ written ∈ image :: images, written.IsWritable)
    (hloaded : image.IsLoaded loading) (htags : tags.IsValid) :
    Chain.Ascends (Container.classic source) (visitPage source) loading
      (image.directoryAt tags position) (pagesOf (image :: images) tags) := by
  induction images generalizing image tags position loading with
  | nil =>
    have hread := WrittenImage.read_directoryAt h.left hsize hbound (Nat.zero_lt_succ _)
    have hpage := WrittenImage.pageOfDirectory_directoryAt h.left hsize hbound
      (hwritable image List.mem_cons_self) hloaded htags
    exact .last hread rfl hpage
  | cons next images ih =>
    obtain ⟨-, hlt⟩ := image.lt_directoryAt tags position
    obtain ⟨hle, -⟩ := next.lt_directoryAt {} (image.endAt tags position)
    have hrest := h.right
    rw [WrittenImage.length_bytes] at hrest
    have hfirst := firstAt_le_size hrest
    have hread := WrittenImage.read_directoryAt h.left hsize hbound (by omega)
    have hpage := WrittenImage.pageOfDirectory_directoryAt h.left hsize hbound
      (hwritable image List.mem_cons_self) hloaded htags
    refine .cons hread (Nat.lt_of_lt_of_le hlt hle) hpage ?_
    exact ih next hrest (fun w hw => hwritable w (List.mem_cons_of_mem image hw))
      (WrittenImage.isLoaded_unlimited hrest.left hsize) WrittenTags.isValid_empty

/-- A written file starts with its first directory. -/
theorem start_fileBytes {images : List WrittenImage} {tags : WrittenTags}
    (h : Holds source 0 (fileBytes images tags)) :
    Container.start source = .ok (Container.classic source, firstAt images tags 8) := by
  have hlt : firstAt images tags 8 < 256 ^ 4 :=
    Nat.lt_of_le_of_lt (firstAt_le_size (holds_imagesBytes h)) hsize
  exact Container.start_classic h hlt hbound

/-- **The pages of a written file are those of its images**, if the tiles or strips of the first
one are few enough. -/
theorem pages_fileBytes (image : WrittenImage) (images : List WrittenImage) {tags : WrittenTags}
    (h : Holds source 0 (fileBytes (image :: images) tags))
    (hwritable : ∀ written ∈ image :: images, written.IsWritable)
    (hloaded : image.IsLoaded .limited) (htags : tags.IsValid) :
    GeoTiffRaster.pages source = { visits := pagesOf (image :: images) tags, fault := none } := by
  unfold GeoTiffRaster.pages
  rw [start_fileBytes hsize hbound h]
  have hascends := ascends_imagesBytes hsize hbound image images (holds_imagesBytes h) hwritable
    hloaded htags
  exact hascends.followFrom_eq (by rintro _ ⟨⟩)

end Chain

end BlockExtent
