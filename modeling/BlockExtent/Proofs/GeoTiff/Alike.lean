import BlockExtent.Proofs.GeoTiff.Offers
import BlockExtent.Proofs.Tiff.Readings

/-!
# Directories that look alike

What the reader makes of a directory depends on the values of its fields.  It looks at those of the
georeferencing only if the directory holds a full image.  Two directories that have the same fields
up to there have the same page, be they in one file or in two.

## Main definitions

* `Tiff.Directory.isMask`, `Tiff.Directory.isFullImage`, `Tiff.Directory.isOverview` — what a
  directory holds, by its tags.
* `Tiff.Directory.LooksLike` — a directory looks to the reader like one of another file.
* `Tiff.Directory.IsEdited` — the entries of a directory are edited, but for those that are read.

## Main results

* `Page.kind_of_ofDirectory` — a page is what the tags tell of its directory.
* `Page.ofDirectory_eq_of_looksLike` — **directories that look alike have the same page.**
* `Tiff.Directory.IsEdited.looksLike` — edited directories look alike.
-/

namespace BlockExtent

open Tiff

/-! ### Fields of two directories -/

namespace Tiff.Directory

/-- Some fields of a directory are those of one of another file. -/
def SameFields (included : Tag → Prop) (file : Container) (d : Directory) (file' : Container)
    (d' : Directory) : Prop :=
  ∀ tag, included tag → ∀ loading, d'.field? file' loading tag = d.field? file loading tag

namespace SameFields

variable {included : Tag → Prop} {file file' : Container} {d d' : Directory} {α : Type}
  (h : SameFields included file d file' d') {tag : Tag} (htag : included tag)
include h htag

theorem use?_eq (loading : Loading) (use : Value → Except DecodeError α) :
    d'.use? file' loading tag use = d.use? file loading tag use := by
  unfold use?
  rw [h tag htag loading]

theorem has_eq : d'.has tag = d.has tag := by
  have hiff : d'.has tag = false ↔ d.has tag = false := by
    rw [← @field?_eq_none_iff file' .unlimited, ← @field?_eq_none_iff file .unlimited,
      h tag htag .unlimited]
  exact Bool.eq_iff_iff.mpr (by simpa using not_congr hiff)

end SameFields

end Tiff.Directory

/-- Results that are equal go from one step to the next. -/
theorem Tiff.goesThrough_eq : GoesThrough fun _ first second => second = first where
  ok _ := rfl
  error _ := rfl
  bind hfirst hnext := by
    rw [hfirst, funext hnext]

/-! ### What a directory holds -/

/-- The tags of the georeferencing. -/
def GeoreferenceTags.tags : List Tag :=
  [.modelPixelScale, .modelTiepoint, .modelTransformation, .geoKeyDirectory, .geoDoubleParams,
    .geoAsciiParams]

namespace Tiff.Directory

variable (file : Container) (d : Directory)

/-- Whether the subfile type of a directory has a bit. -/
def hasSubfileBit (bit : ℕ) : Bool :=
  match d.use? file .unlimited .newSubfileType Value.toWord32 with
  | .ok (some kind) => kind.testBit bit
  | _ => false

/-- Whether the samples of a directory are those of a mask. -/
def hasMaskSamples : Bool :=
  match d.use? file .unlimited .photometricInterpretation Value.toWord16 with
  | .ok (some photometric) => photometric == 4
  | _ => false

/-- Whether a directory holds a mask. -/
def isMask : Bool := d.hasSubfileBit file 2 || d.hasMaskSamples file

/-- Whether a directory holds a full image. -/
def isFullImage : Bool := !d.isMask file && !d.hasSubfileBit file 0

/-- Whether a directory holds a reduced image. -/
def isOverview : Bool := !d.isMask file && d.hasSubfileBit file 0

theorem isFullImage_iff :
    d.isFullImage file = true ↔ d.isMask file = false ∧ d.hasSubfileBit file 0 = false := by
  simp [isFullImage]

/-- A directory looks to the reader like one of another file: it has the same fields, those of the
georeferencing if it holds a full image. -/
structure LooksLike (file : Container) (d : Directory) (file' : Container) (d' : Directory) :
    Prop where
  plain : SameFields (· ∉ GeoreferenceTags.tags) file d file' d'
  geo : d.isFullImage file = true → SameFields (fun _ => True) file d file' d'

end Tiff.Directory

namespace Page

variable {file file' : Container} {loading : Loading} {d d' : Directory}

/-- What the subfile type tells, be it there or not. -/
theorem hasSubfileBit_eq {kind? : Option ℕ}
    (h : d.use? file .unlimited .newSubfileType Value.toWord32 = .ok kind?) (bit : ℕ) :
    d.hasSubfileBit file bit = (kind?.getD 0).testBit bit := by
  unfold Directory.hasSubfileBit
  rw [h]
  cases kind? with
  | none => exact (Nat.zero_testBit bit).symm
  | some kind => rfl

/-- The reader takes for masks what the tags tell. -/
theorem isMask_eq_of_isMask {kind? : Option ℕ} {mask : Bool}
    (hkind : d.use? file .unlimited .newSubfileType Value.toWord32 = .ok kind?)
    (h : isMask file d (kind?.getD 0) = .ok mask) : d.isMask file = mask := by
  unfold Directory.isMask
  rw [hasSubfileBit_eq hkind]
  unfold isMask at h
  by_cases hbit : (kind?.getD 0).testBit 2 = true
  · rw [if_pos hbit] at h
    cases h
    rw [hbit]
    rfl
  · rw [if_neg hbit] at h
    obtain ⟨photometric?, hphotometric, hpure⟩ := bind_eq_ok h
    cases hpure
    rw [Bool.eq_false_iff.mpr hbit, Bool.false_or]
    unfold Directory.hasMaskSamples
    rw [hphotometric]
    cases photometric? with
    | none => rfl
    | some photometric => rfl

/-- A page is what the tags tell of its directory. -/
theorem kind_of_ofDirectory {page : Page} (h : ofDirectory file d loading = .ok page) :
    (d.isMask file = true ∧ ∃ kind, page = .mask kind)
      ∨ d.isMask file = false
        ∧ ∃ image, page = .image image ∧ image.reduced = d.hasSubfileBit file 0 := by
  obtain ⟨image, kind?, -, hkind, ⟨hmask, hpage⟩ | ⟨hmask, found, hpage, -, hreduced, -⟩⟩ :=
    ofDirectory_eq_ok h
  · exact .inl ⟨isMask_eq_of_isMask hkind hmask, _, hpage⟩
  · refine .inr ⟨isMask_eq_of_isMask hkind hmask, found, hpage, ?_⟩
    rw [hreduced, hasSubfileBit_eq hkind]

/-- A page that is read under the limit is read without it. -/
theorem ofDirectory_unlimited {page : Page} (h : ofDirectory file d loading = .ok page) :
    ofDirectory file d .unlimited = .ok page := by
  unfold ofDirectory at h ⊢
  obtain ⟨image, himage, h⟩ := bind_eq_ok h
  rw [Image.ofDirectory_unlimited file loading d himage]
  exact h

/-- The georeferencing is read from its tags alone. -/
theorem georeferenceRead_eq (h : Directory.SameFields (fun _ => True) file d file' d') :
    GeoreferenceTags.read file' d' = GeoreferenceTags.read file d := by
  unfold GeoreferenceTags.read GeoreferenceTags.readKeys
  simp only [h.use?_eq trivial]

/-- The fields of an image are not those of the georeferencing. -/
theorem not_mem_tags_of_mem_image : ∀ tag ∈ Image.tags, tag ∉ GeoreferenceTags.tags := by decide

section LooksLike

variable (h : Directory.LooksLike file d file' d')
include h

theorem imageOfDirectory_eq_of_looksLike (loading : Loading) :
    Image.ofDirectory file' loading d' = Image.ofDirectory file loading d := by
  have hrelated : Image.IsRelated (fun _ first second => second = first) file loading d
      file' loading d' :=
    { goesThrough := goesThrough_eq
      use? := fun tag htag _ use _ =>
        h.plain.use?_eq (not_mem_tags_of_mem_image tag htag) loading use
      has := fun tag htag => (h.plain.has_eq (not_mem_tags_of_mem_image tag htag)).symm }
  exact hrelated.ofDirectory

theorem isMask_eq_of_looksLike (kind : ℕ) : isMask file' d' kind = isMask file d kind := by
  unfold isMask
  rw [h.plain.use?_eq (by decide)]

theorem blockSize_eq_of_looksLike (image : Image) :
    blockSize file' d' image = blockSize file d image := by
  unfold blockSize
  rw [h.plain .tileWidth (by decide)]

/-- Directories that look alike have the same page if they have the same image. -/
theorem ofImage_eq_of_looksLike (image : Image) :
    ofImage file' d' image = ofImage file d image := by
  unfold ofImage
  rw [h.plain.use?_eq (by decide)]
  cases hkind : d.use? file .unlimited .newSubfileType Value.toWord32 with
  | error cause => rw [error_bind, error_bind]
  | ok kind? =>
    rw [ok_bind, ok_bind]
    dsimp only
    rw [isMask_eq_of_looksLike h]
    cases hmask : isMask file d (kind?.getD 0) with
    | error cause => rw [error_bind, error_bind]
    | ok mask =>
      rw [ok_bind, ok_bind, blockSize_eq_of_looksLike h]
      by_cases hskip : mask = true ∨ (kind?.getD 0).testBit 0 = true
      · -- the georeferencing is not looked at
        rcases hskip with rfl | hreduced
        · rw [if_pos rfl, if_pos rfl]
        · simp only [if_pos hreduced]
      · rw [not_or, Bool.not_eq_true, Bool.not_eq_true] at hskip
        have hfull : d.isFullImage file = true := by
          rw [Directory.isFullImage_iff, isMask_eq_of_isMask hkind hmask, hasSubfileBit_eq hkind]
          exact hskip
        rw [georeferenceRead_eq (h.geo hfull)]

/-- **Directories that look alike have the same page.** -/
theorem ofDirectory_eq_of_looksLike (loading : Loading) :
    ofDirectory file' d' loading = ofDirectory file d loading := by
  unfold ofDirectory
  rw [imageOfDirectory_eq_of_looksLike h, funext (ofImage_eq_of_looksLike h)]

end LooksLike

end Page

/-! ### Edited directories -/

namespace Tiff.Directory

variable {file file' : Container} {d d' : Directory} {tag : Tag}

/-- The entries of a directory are edited.  Each keeps its tag, and its value too unless it belongs
to the georeferencing of a mask or a reduced image. -/
def IsEdited (file : Container) (d : Directory) (file' : Container) (d' : Directory) : Prop :=
  List.Forall₂ (fun e e' : Entry => e'.tag = e.tag
    ∧ (e.tag ∈ [33550, 33922, 34264, 34735, 34736, 34737] ∧ d.isFullImage file = false
      ∨ ∀ loading, e'.value file' loading = e.value file loading)) d.entries d'.entries

/-- Entries that keep their tags are found by them. -/
theorem rel_entries {R : Entry → Entry → Prop} (htag : ∀ e e', R e e' → e'.tag = e.tag)
    (h : List.Forall₂ R d.entries d'.entries) (tag : Tag) :
    Option.Rel R (d.entry? tag) (d'.entry? tag) := by
  unfold entry?
  rw [List.findRev?_eq_find?_reverse, List.findRev?_eq_find?_reverse]
  -- of several entries of a tag the last one counts
  have hreverse := List.forall₂_reverse_iff.mpr h
  generalize d.entries.reverse = es, d'.entries.reverse = es' at hreverse
  induction hreverse with
  | nil => exact .none
  | @cons e e' es es' he _ ih =>
    rw [List.find?_cons, List.find?_cons, htag e e' he]
    split
    · exact .some he
    · exact ih

theorem tag_eq_code {e : Entry} (h : d.entry? tag = some e) : e.tag = tag.code := by
  unfold entry? at h
  rw [List.findRev?_eq_find?_reverse] at h
  have hfound := List.find?_some h
  exact beq_iff_eq.mp hfound

/-- The tags of the georeferencing are known by their codes. -/
theorem mem_tags_of_code_mem (h : tag.code ∈ [33550, 33922, 34264, 34735, 34736, 34737]) :
    tag ∈ GeoreferenceTags.tags := by
  cases tag <;> revert h <;> decide

/-- **Edited directories look alike.** -/
theorem IsEdited.looksLike (h : IsEdited file d file' d') : LooksLike file d file' d' := by
  have hfield : ∀ tag, ¬ (tag ∈ GeoreferenceTags.tags ∧ d.isFullImage file = false) →
      ∀ loading, d'.field? file' loading tag = d.field? file loading tag := by
    intro tag hkept loading
    have hrel := rel_entries (fun _ _ he => he.1) h tag
    have htag := fun e => @tag_eq_code d tag e
    unfold field?
    generalize d.entry? tag = found, d'.entry? tag = found' at hrel htag
    cases hrel with
    | none => rfl
    | @some e e' he =>
      obtain ⟨-, ⟨hcode, hfull⟩ | hvalue⟩ := he
      · rw [htag e rfl] at hcode
        exact absurd ⟨mem_tags_of_code_mem hcode, hfull⟩ hkept
      · exact congrArg (Except.map some) (hvalue loading)
  exact
    { plain := fun tag htag => hfield tag fun hgeo => htag hgeo.1
      geo := fun hfull tag _ => hfield tag fun hgeo => by simp [hfull] at hgeo }

end Tiff.Directory

end BlockExtent
