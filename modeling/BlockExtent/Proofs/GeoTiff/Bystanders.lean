import BlockExtent.Proofs.GeoTiff.Alike
import BlockExtent.Proofs.GeoTiff.Walks
import BlockExtent.Proofs.Tiff.Layout

/-!
# Directories outside the pyramid

The raster of a file is made of some of its directories: the first full image and the reduced
images after it.  Masks, reduced images in front of the raster and further full images may stand
anywhere among them.  As long as they can be read, they make no difference, and what masks and
reduced images have in their georeferencing tags is not even looked at.

## Main definitions

* `IsPyramid` — the first full image among directories, and the reduced images after it.
* `SamePyramid` — the pyramids of two files look alike.
* `GeoTiffRaster.IgnoresBystanders` — what makes no difference to the raster of a file.

## Main results

* `HavePages.pyramid?_images` — the pyramid of the pages is that of the directories.
* `GeoTiffRaster.ignoresBystanders` — **directories outside the pyramid make no difference.**
-/

namespace BlockExtent

open Tiff

/-! ### The pyramid of a file -/

/-- The first full image among directories, and the reduced images after it. -/
inductive IsPyramid (file : Container) :
    (ds : List Directory) → (base : Directory) → (overviews : List Directory) → Prop where
  /-- The first directory holds a full image. -/
  | base {d : Directory} (ds : List Directory) (hfull : d.isFullImage file = true) :
      IsPyramid file (d :: ds) d (ds.filter (Directory.isOverview file))
  /-- The first directory holds something else. -/
  | skip {d base : Directory} {ds overviews : List Directory} (hfull : d.isFullImage file = false)
      (hrest : IsPyramid file ds base overviews) : IsPyramid file (d :: ds) base overviews

/-- Directories have these pages. -/
abbrev HavePages (file : Container) (ds : List Directory) (pages : List Page) : Prop :=
  List.Forall₂ (fun d page => Page.ofDirectory file d .unlimited = .ok page) ds pages

/-- Directories have these images. -/
abbrev HaveImages (file : Container) (ds : List Directory) (images : List ImagePage) : Prop :=
  List.Forall₂ (fun d image => Page.ofDirectory file d .unlimited = .ok (.image image)) ds images

namespace HavePages

variable {file : Container} {ds : List Directory} {pages : List Page}

/-- The reduced images are those of the directories that hold one. -/
theorem haveImages_overviews (h : HavePages file ds pages) :
    HaveImages file (ds.filter (Directory.isOverview file))
      ((Page.images pages).filter ImagePage.reduced) := by
  induction h with
  | nil => exact .nil
  | @cons d page ds pages hpage _ ih =>
    rcases Page.kind_of_ofDirectory hpage with ⟨hmask, kind, rfl⟩ | ⟨hmask, image, rfl, hreduced⟩
    · have hnot : ¬ d.isOverview file = true := by simp [Directory.isOverview, hmask]
      rw [List.filter_cons_of_neg hnot]
      exact ih
    · have himages : Page.images (.image image :: pages) = image :: Page.images pages := rfl
      have hkind : d.isOverview file = image.reduced := by
        simp [Directory.isOverview, hmask, hreduced]
      rw [himages, List.filter_cons, List.filter_cons, hkind]
      split
      · exact .cons hpage ih
      · exact ih

/-- The pyramid of the pages is that of the directories. -/
theorem pyramid?_images {base : Directory} {overviews : List Directory}
    (h : HavePages file ds pages) (hpyramid : IsPyramid file ds base overviews) :
    ∃ image reduced, pyramid? (Page.images pages) = some (image, reduced)
      ∧ HaveImages file (base :: overviews) (image :: reduced) := by
  -- the pages are searched for the first full image as the directories are
  induction hpyramid generalizing pages with
  | @base d ds hfull =>
    obtain ⟨page, pages, hpage, hpages, rfl⟩ := List.forall₂_cons_left_iff.mp h
    obtain ⟨hnomask, hnobit⟩ := (Directory.isFullImage_iff file d).mp hfull
    rcases Page.kind_of_ofDirectory hpage with ⟨hmask, -⟩ | ⟨-, image, rfl, hreduced⟩
    · rw [hnomask] at hmask
      cases hmask
    · have hnot : ¬ image.reduced = true := by
        rw [hreduced, hnobit]
        exact Bool.false_ne_true
      refine ⟨image, (Page.images pages).filter ImagePage.reduced, if_neg hnot, ?_⟩
      exact .cons hpage (haveImages_overviews hpages)
  | @skip d base ds overviews hfull _ ih =>
    obtain ⟨page, pages, hpage, hpages, rfl⟩ := List.forall₂_cons_left_iff.mp h
    obtain ⟨image, reduced, hpyramid, himages⟩ := ih hpages
    refine ⟨image, reduced, ?_, himages⟩
    -- what is passed over is a mask, which is no image at all, or a reduced image
    rcases Page.kind_of_ofDirectory hpage with ⟨-, kind, rfl⟩ | ⟨hmask, first, rfl, hreduced⟩
    · exact hpyramid
    · have hfirst : first.reduced = true := by
        rw [hreduced]
        simpa [Directory.isFullImage, hmask] using hfull
      exact (if_pos hfirst).trans hpyramid

end HavePages

/-- Directories that look alike have the same images. -/
theorem HaveImages.eq_of_looksLike {file file' : Container} {ds ds' : List Directory}
    {images images' : List ImagePage}
    (halike : List.Forall₂ (fun d d' => Directory.LooksLike file d file' d') ds ds')
    (h : HaveImages file ds images) (h' : HaveImages file' ds' images') : images = images' := by
  induction halike generalizing images images' with
  | nil => rw [List.forall₂_nil_left_iff.mp h, List.forall₂_nil_left_iff.mp h']
  | cons hlook _ ih =>
    obtain ⟨image, images, himage, himages, rfl⟩ := List.forall₂_cons_left_iff.mp h
    obtain ⟨image', images', himage', himages', rfl⟩ := List.forall₂_cons_left_iff.mp h'
    rw [Page.ofDirectory_eq_of_looksLike hlook, himage] at himage'
    cases himage'
    rw [ih himages himages']

/-! ### The raster of a file -/

/-- The first full images of two files and the reduced images after them look alike. -/
def SamePyramid (file : Container) (ds : List Directory) (file' : Container)
    (ds' : List Directory) : Prop :=
  ∃ base overviews base' overviews', IsPyramid file ds base overviews
    ∧ IsPyramid file' ds' base' overviews'
    ∧ List.Forall₂ (fun d d' => Directory.LooksLike file d file' d') (base :: overviews)
      (base' :: overviews')

namespace GeoTiffRaster

variable {path : String} {source source' : ByteSource} {file file' : Container} {first first' : ℕ}

/-- If all directories of a file can be read, they have pages. -/
theorem havePages_of_fault (hstart : Container.start source = .ok (file, first))
    (hfault : (pages source).fault = none) :
    HavePages file (Chain.directories file first).visits (pages source).visits := by
  rw [pages_eq_visitEach hstart] at hfault ⊢
  refine (Chain.forall₂_of_visitEach hfault).imp fun d page hvisit => ?_
  obtain ⟨loading, hpage⟩ := hvisit
  exact Page.ofDirectory_unlimited hpage

/-- A file all of whose directories can be read is opened with the images among its pages. -/
theorem readSource_of_fault (path : String) (hfault : (pages source).fault = none) :
    readSource path source = ofImages path (Page.images (pages source).visits) := by
  rw [readSource_eq]
  unfold ofChain
  rw [hfault]

/-- Images with the same pyramid make the same raster. -/
theorem exists_ofImages {images images' : List ImagePage} {base : ImagePage}
    {overviews : List ImagePage} (path : String) (h : pyramid? images = some (base, overviews))
    (h' : pyramid? images' = some (base, overviews)) :
    ∃ raster, ofImages path images = .ok raster ∧ ofImages path images' = .ok raster := by
  unfold ofImages
  rw [h, h']
  exact ⟨_, rfl, rfl⟩

/-- Files whose pyramids look alike are opened as the same raster, if all of their directories can
be read. -/
theorem exists_readSource_of_samePyramid (path : String)
    (hstart : Container.start source = .ok (file, first))
    (hstart' : Container.start source' = .ok (file', first'))
    (hfault : (pages source).fault = none) (hfault' : (pages source').fault = none)
    (h : SamePyramid file (Chain.directories file first).visits file'
      (Chain.directories file' first').visits) :
    ∃ raster, readSource path source = .ok raster ∧ readSource path source' = .ok raster := by
  obtain ⟨base, overviews, base', overviews', hpyramid, hpyramid', halike⟩ := h
  obtain ⟨image, reduced, hfound, himages⟩ :=
    (havePages_of_fault hstart hfault).pyramid?_images hpyramid
  obtain ⟨image', reduced', hfound', himages'⟩ :=
    (havePages_of_fault hstart' hfault').pyramid?_images hpyramid'
  have hsame := himages.eq_of_looksLike halike himages'
  cases hsame
  rw [readSource_of_fault path hfault, readSource_of_fault path hfault']
  exact exists_ofImages path hfound hfound'

/-- Files all of whose directories look alike are opened alike. -/
theorem readSource_eq_of_looksLike (path : String)
    (hstart : Container.start source = .ok (file, first))
    (hstart' : Container.start source' = .ok (file', first'))
    (hfault : (Chain.directories file' first').fault = (Chain.directories file first).fault)
    (h : List.Forall₂ (fun d d' => Directory.LooksLike file d file' d')
      (Chain.directories file first).visits (Chain.directories file' first').visits) :
    readSource path source' = readSource path source := by
  have hvisits : List.Forall₂
      (fun d d' => ∀ loading, Page.visit file loading d = Page.visit file' loading d')
      (Chain.directories file first).visits (Chain.directories file' first').visits :=
    h.imp fun d d' hlook loading => (Page.ofDirectory_eq_of_looksLike hlook loading).symm
  rw [readSource_eq, readSource_eq, pages_eq_visitEach hstart, pages_eq_visitEach hstart', hfault,
    Chain.visitEach_congr hvisits]

/-- Directories outside the pyramid make no difference to the raster of a file. -/
structure IgnoresBystanders (path : String) (source source' : ByteSource) : Prop where
  /-- Two files all of whose directories can be read are opened as the same raster if their pyramids
  look alike, whatever else there is in front of, between and behind the images of the pyramids. -/
  samePyramid : ∀ file first file' first', Container.start source = .ok (file, first) →
    Container.start source' = .ok (file', first') →
    (pages source).fault = none → (pages source').fault = none →
    SamePyramid file (Chain.directories file first).visits file'
      (Chain.directories file' first').visits →
    ∃ raster, readSource path source = .ok raster ∧ readSource path source' = .ok raster
  /-- A file is opened alike, and fails alike, if the georeferencing of its masks and reduced images
  is edited. -/
  edited : ∀ file first file' first', Container.start source = .ok (file, first) →
    Container.start source' = .ok (file', first') →
    (Chain.directories file' first').fault = (Chain.directories file first).fault →
    List.Forall₂ (fun d d' => Directory.IsEdited file d file' d')
      (Chain.directories file first).visits (Chain.directories file' first').visits →
    readSource path source' = readSource path source

/-- **Directories outside the pyramid make no difference to the raster of a file.** -/
theorem ignoresBystanders (path : String) (source source' : ByteSource) :
    IgnoresBystanders path source source' where
  samePyramid _ _ _ _ := exists_readSource_of_samePyramid path
  edited _ _ _ _ hstart hstart' hfault hedited :=
    readSource_eq_of_looksLike path hstart hstart' hfault
      (hedited.imp fun _ _ h => h.looksLike)

/-! ### A mask in front of a pyramid -/

/-- Numbers that lie in a directory itself are the same in any file. -/
theorem value_eq_of_slots {source source' : ByteSource} {entries : List Entry}
    (hslots : ∀ e ∈ entries, e.count = 1 ∧ e.type.size ≤ 4) :
    ∀ e ∈ entries, ∀ loading, e.value (Container.classic source') loading
      = e.value (Container.classic source) loading := by
  intro e he loading
  obtain ⟨hcount, hsize⟩ := hslots e he
  have hword : ∀ source, e.type.size ≤ (Container.classic source).wordSize := fun _ => hsize
  unfold Entry.value Entry.single
  dsimp only
  rw [if_pos hcount, if_pos hcount, if_pos (hword source), if_pos (hword source')]
  rfl

/-- Directories of such numbers look alike. -/
theorem looksLike_of_slots {source source' : ByteSource} {entries : List Entry}
    (hslots : ∀ e ∈ entries, e.count = 1 ∧ e.type.size ≤ 4) (next next' : ℕ) :
    Directory.LooksLike (Container.classic source) { entries, next } (Container.classic source')
      { entries, next := next' } := by
  refine Directory.IsEdited.looksLike (List.forall₂_same.mpr fun e he => ⟨rfl, .inr ?_⟩)
  exact value_eq_of_slots hslots e he

/-- A field of one number. -/
def numberEntry (tag : ℕ) (type : FieldType) (n : ℕ) : Entry where
  tag
  type
  count := 1
  slot := littleBytes 4 n

/-- The fields of an image that has one strip. -/
def stripEntries (side photometric : ℕ) : List Entry :=
  [numberEntry 256 .long side, numberEntry 257 .long side, numberEntry 262 .short photometric,
    numberEntry 273 .long 8, numberEntry 279 .long (side * side)]

/-- A reduced image. -/
def reducedEntries : List Entry := numberEntry 254 .long 1 :: stripEntries 2 1

/-- A mask that has a field of the georeferencing. -/
def maskEntries (geo : Entry) : List Entry := geo :: stripEntries 4 4

/-- A pyramid of two images. -/
def plainSequence : List (List Entry) := [stripEntries 4 1, reducedEntries]

/-- The pyramid with a mask in front of it, which a full image cannot have the field of. -/
def maskedSequence : List (List Entry) :=
  [maskEntries (numberEntry 33550 .short 7), stripEntries 4 1, reducedEntries]

/-- The field of the mask is another one, whose text would be behind the file. -/
def editedSequence : List (List Entry) :=
  [maskEntries { tag := 33550, type := .ascii, count := 5, slot := littleBytes 4 999 },
    stripEntries 4 1, reducedEntries]

/-- The directories of the files are those that were written. -/
theorem directories_plainSequence :
    Container.start (sequenceFile plainSequence)
        = .ok (Container.classic (sequenceFile plainSequence), 8)
      ∧ Chain.directories (Container.classic (sequenceFile plainSequence)) 8
        = { visits := layOut plainSequence 8, fault := none } :=
  directories_sequenceFile (by decide) (by decide +kernel)

theorem directories_maskedSequence :
    Container.start (sequenceFile maskedSequence)
        = .ok (Container.classic (sequenceFile maskedSequence), 8)
      ∧ Chain.directories (Container.classic (sequenceFile maskedSequence)) 8
        = { visits := layOut maskedSequence 8, fault := none } :=
  directories_sequenceFile (by decide) (by decide +kernel)

theorem directories_editedSequence :
    Container.start (sequenceFile editedSequence)
        = .ok (Container.classic (sequenceFile editedSequence), 8)
      ∧ Chain.directories (Container.classic (sequenceFile editedSequence)) 8
        = { visits := layOut editedSequence 8, fault := none } :=
  directories_sequenceFile (by decide) (by decide +kernel)

theorem fault_pages_plainSequence : (pages (sequenceFile plainSequence)).fault = none := by
  rw [pages_eq_visitEach directories_plainSequence.1, directories_plainSequence.2]
  rfl

theorem fault_pages_maskedSequence : (pages (sequenceFile maskedSequence)).fault = none := by
  rw [pages_eq_visitEach directories_maskedSequence.1, directories_maskedSequence.2]
  rfl

theorem samePyramid_maskedSequence :
    SamePyramid (Container.classic (sequenceFile plainSequence)) (layOut plainSequence 8)
      (Container.classic (sequenceFile maskedSequence)) (layOut maskedSequence 8) := by
  refine ⟨_, [{ entries := reducedEntries, next := 0 }], _,
    [{ entries := reducedEntries, next := 0 }], .base _ rfl, .skip rfl (.base _ rfl), ?_⟩
  refine .cons ?_ (.cons ?_ .nil)
  · exact looksLike_of_slots (by decide) _ _
  · exact looksLike_of_slots (by decide) _ _

theorem isEdited_editedSequence :
    List.Forall₂ (fun d d' => Directory.IsEdited (Container.classic (sequenceFile maskedSequence)) d
      (Container.classic (sequenceFile editedSequence)) d')
      (layOut maskedSequence 8) (layOut editedSequence 8) := by
  have hkept : ∀ entries ∈ [stripEntries 4 4, stripEntries 4 1, reducedEntries], ∀ e ∈ entries,
      e.count = 1 ∧ e.type.size ≤ 4 := by decide
  have hvalue := fun entries hentries => @value_eq_of_slots (sequenceFile maskedSequence)
    (sequenceFile editedSequence) entries (hkept entries hentries)
  refine .cons (.cons ⟨rfl, .inl ⟨by decide, rfl⟩⟩ ?_) (.cons ?_ (.cons ?_ .nil))
  · exact List.forall₂_same.mpr fun e he => ⟨rfl, .inr (hvalue (stripEntries 4 4) (by simp) e he)⟩
  · exact List.forall₂_same.mpr fun e he => ⟨rfl, .inr (hvalue (stripEntries 4 1) (by simp) e he)⟩
  · exact List.forall₂_same.mpr fun e he => ⟨rfl, .inr (hvalue reducedEntries (by simp) e he)⟩

/-- The two files are opened as the same raster, and the edited one like the one that was edited. -/
theorem ignoresBystanders_maskedSequence :
    (∃ raster, readSource "image.tif" (sequenceFile plainSequence) = .ok raster
        ∧ readSource "image.tif" (sequenceFile maskedSequence) = .ok raster)
      ∧ readSource "image.tif" (sequenceFile editedSequence)
        = readSource "image.tif" (sequenceFile maskedSequence) := by
  obtain ⟨hstart, hplain⟩ := directories_plainSequence
  obtain ⟨hstart', hmasked⟩ := directories_maskedSequence
  obtain ⟨hstart'', hedited⟩ := directories_editedSequence
  constructor
  · refine (ignoresBystanders _ _ _).samePyramid _ 8 _ 8 hstart hstart' fault_pages_plainSequence
      fault_pages_maskedSequence ?_
    rw [hplain, hmasked]
    exact samePyramid_maskedSequence
  · refine (ignoresBystanders _ _ _).edited _ 8 _ 8 hstart' hstart'' ?_ ?_
    · rw [hmasked, hedited]
    · rw [hmasked, hedited]
      exact isEdited_editedSequence

end GeoTiffRaster

end BlockExtent
