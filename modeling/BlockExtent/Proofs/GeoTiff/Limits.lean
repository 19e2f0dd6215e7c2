import BlockExtent.Proofs.GeoTiff.Walks
import BlockExtent.Proofs.Tiff.Bytes
import BlockExtent.Proofs.Tiff.ImageLimits

/-!
# The limit of the first directory

A GeoTIFF is read without a limit, but for the image of its first directory.  No other directory
of a classic file is refused for its size; the first one is if it lists more than so many strips
or tiles, however well it would do in another place of the file.

## Main definitions

* `GeoTiffRaster.LimitsFirst` — what the limit does to the reading of a file.
* `GeoTiffRaster.manyStrips` — a file that lists more strips than it has bytes.

## Main results

* `Page.agrees_ofDirectory` — the page of a directory agrees, unless its image exceeds the limit.
* `Chain.fault_followFrom_ne` — a chain that is read without a limit does not fail by one.
* `GeoTiffRaster.limitsFirst_of_classic` — **what the limit does to the reading of a classic
  file.**
-/

namespace BlockExtent

open Tiff

/-! ### GeoKeys -/

namespace KeyDirectory

theorem isUnlimited_set (d : KeyDirectory) (key : GeoKey) (value : GeoKeyValue) :
    IsUnlimited (d.set key value) := by
  have hnumber : IsUnlimited value.toNumber := by
    cases value <;> simp [GeoKeyValue.toNumber]
  have htext : IsUnlimited value.toText := by
    cases value <;> simp [GeoKeyValue.toText]
  cases key with
  | rasterType | geographicType | projectedType => exact hnumber.map _
  | citation | geographicCitation | projectedCitation => exact htext.map _

theorem isUnlimited_ofShorts (shorts : List ℕ) (doubles : Option (List Float))
    (ascii : Option String) : IsUnlimited (ofShorts shorts doubles ascii) := by
  unfold ofShorts
  split
  · simp
  · unfold ofValues
    exact isUnlimited_foldlM (fun d (entry : GeoKey × GeoKeyValue) =>
      isUnlimited_set d entry.1 entry.2) _ {}

end KeyDirectory

/-! ### Pages -/

section Pages

variable {file : Container} {d : Directory} (hsmall : ∀ e ∈ d.entries, e.byteCount < 2 ^ 64)
include hsmall

theorem GeoreferenceTags.isUnlimited_read : IsUnlimited (read file d) := by
  have hdoubles : ∀ tag, IsUnlimited (d.use? file .unlimited tag Value.toDoubles) :=
    fun tag => (Directory.agrees_use? hsmall Value.isUnlimited_toDoubles).1
  have hkeys : IsUnlimited (readKeys file d) := by
    unfold readKeys
    refine (Directory.agrees_use? hsmall Value.isUnlimited_toWords16).1.bind fun shorts? => ?_
    cases shorts? with
    | none => exact isUnlimited_ok none
    | some shorts =>
      refine (hdoubles _).bind fun doubles => ?_
      refine (Directory.agrees_use? hsmall Value.isUnlimited_toText).1.bind fun ascii => ?_
      exact (KeyDirectory.isUnlimited_ofShorts shorts doubles ascii).bind fun _ => isUnlimited_ok _
  unfold read
  refine (hdoubles _).bind fun scale => (hdoubles _).bind fun points => ?_
  exact (hdoubles _).bind fun matrix => hkeys.bind fun keys => isUnlimited_ok _

namespace Page

theorem isUnlimited_ofImage (image : Image) : IsUnlimited (ofImage file d image) := by
  have hmask : ∀ subfileType, IsUnlimited (isMask file d subfileType) := by
    intro subfileType
    unfold isMask
    split_ifs
    · exact isUnlimited_ok true
    · exact (Directory.agrees_use? hsmall Value.isUnlimited_toWord16).1.bind fun _ =>
        isUnlimited_ok _
  have hblock : IsUnlimited (blockSize file d image) := by
    unfold blockSize
    refine (Directory.agrees_field? hsmall).1.bind fun width? => ?_
    split_ifs
    · exact isUnlimited_ok _
    · exact isUnlimited_ok _
  unfold ofImage
  refine (Directory.agrees_use? hsmall Value.isUnlimited_toWord32).1.bind fun kind? => ?_
  refine (hmask _).bind fun mask => ?_
  split_ifs
  · exact isUnlimited_ok _
  · exact hblock.bind fun _ => isUnlimited_ok _
  · exact hblock.bind fun _ => ((GeoreferenceTags.isUnlimited_read hsmall).map _).bind fun _ =>
      isUnlimited_ok _

/-- The page of a directory agrees, unless its image exceeds the limit. -/
theorem agrees_ofDirectory : AgreesUnless (Image.ExceedsLimit d) (ofDirectory file d .limited)
    (ofDirectory file d .unlimited) := by
  unfold ofDirectory
  exact (Image.agrees_ofDirectory hsmall).bind fun image =>
    .of_isUnlimited (isUnlimited_ofImage hsmall image)

/-- A page of too many strips or tiles is refused under the limit. -/
theorem ofDirectory_eq_limitsExceeded (h : Image.ListsTooMany d) {page : Page}
    (hok : ofDirectory file d .unlimited = .ok page) :
    ofDirectory file d .limited = .error .limitsExceeded := by
  unfold ofDirectory at hok ⊢
  obtain ⟨image, himage, -⟩ := bind_eq_ok hok
  rw [Image.ofDirectory_eq_limitsExceeded hsmall h himage]
  rfl

end Page

end Pages

/-! ### Chains -/

/-- **A chain that is read without a limit does not fail by one**, if no visit does. -/
theorem Tiff.Chain.fault_followFrom_ne {α : Type} {file : Container}
    {visit : Loading → Directory → Except DecodeError α}
    (hvisit : ∀ position d, Directory.read file position = .ok d → IsUnlimited (visit .unlimited d))
    {visited : List ℕ} {position : ℕ} (hnew : position ∉ visited) :
    (followFrom file visit .unlimited visited position hnew).fault ≠ some .limitsExceeded := by
  generalize hloading : Loading.unlimited = loading
  fun_induction followFrom file visit loading visited position hnew with
  | case1 loading visited position hnew cause hread =>
    rintro ⟨⟩
    exact Directory.isUnlimited_read file position hread
  | case2 loading visited position hnew d hread _ hnext cause herror =>
    rintro ⟨⟩
    subst hloading
    exact hvisit position d hread herror
  | case3 | case4 => rintro ⟨⟩
  | case5 loading visited position hnew d hread _ hnext hcycle cause herror =>
    rintro ⟨⟩
    subst hloading
    exact hvisit position d hread herror
  | case6 loading visited position hnew d hread _ hnext hcycle a hok ih => exact ih rfl

/-! ### Rasters -/

namespace GeoTiffRaster

/-- A file is refused for a limit if its pages are. -/
theorem readSource_eq_limitsExceeded_iff {path : String} {source : ByteSource} :
    readSource path source = .error (.decode .limitsExceeded)
      ↔ (pages source).fault = some .limitsExceeded := by
  rw [readSource_eq]
  unfold ofChain
  cases hfault : (pages source).fault with
  | some cause => simp
  | none =>
    simp only [reduceCtorEq, iff_false]
    unfold ofImages
    split <;> rintro ⟨⟩

/-- A classic file is refused if its first directory lists too many strips or tiles, even if it is a
page without the limit. -/
theorem readSource_of_listsTooMany {path : String} {source : ByteSource} {file : Container}
    {first : ℕ} {d : Directory} {page : Page} (hstart : Container.start source = .ok (file, first))
    (hclassic : file.big = false) (hread : Directory.read file first = .ok d)
    (hnext : d.next = 0 ∨ d.next ≠ first) (hmany : Image.ListsTooMany d)
    (hpage : Page.ofDirectory file d .unlimited = .ok page) :
    readSource path source = .error (.decode .limitsExceeded) := by
  have hsmall := Directory.byteCount_lt_of_read hclassic hread
  have hrefused := Page.ofDirectory_eq_limitsExceeded hsmall hmany hpage
  rw [readSource_eq_limitsExceeded_iff]
  unfold pages
  rw [hstart]
  dsimp only
  unfold Chain.follow
  rw [Chain.followFrom_fault hread (hnext.imp_right fun hne => by simpa using hne) hrefused]

/-- What the limit does to the reading of a file. -/
structure LimitsFirst (path : String) (source : ByteSource) : Prop where
  /-- No directory is refused for a limit when it is read without one. -/
  unlimited : ∀ file first position d, Container.start source = .ok (file, first) →
    Directory.read file position = .ok d →
    Page.ofDirectory file d .unlimited ≠ .error .limitsExceeded
  /-- A file whose first directory does not exceed the limit is read as if there were none. -/
  agrees : ∀ file first d, Container.start source = .ok (file, first) →
    Directory.read file first = .ok d → ¬ Image.ExceedsLimit d →
    pages source
      = Chain.followFrom file (Page.visit file) .unlimited [] first List.not_mem_nil
  /-- A file is refused for the limit only if its first directory exceeds it. -/
  exceeds : readSource path source = .error (.decode .limitsExceeded) →
    ∃ file first d, Container.start source = .ok (file, first)
      ∧ Directory.read file first = .ok d ∧ Image.ExceedsLimit d
      ∧ Page.ofDirectory file d .limited = .error .limitsExceeded
  /-- A file is refused if its first directory lists too many strips or tiles, even if it is a
  page without the limit. -/
  refused : ∀ file first d page, Container.start source = .ok (file, first) →
    Directory.read file first = .ok d → d.next = 0 ∨ d.next ≠ first → Image.ListsTooMany d →
    Page.ofDirectory file d .unlimited = .ok page →
    readSource path source = .error (.decode .limitsExceeded)

/-- **What the limit does to the reading of a classic file.**  It is a matter of the first
directory alone. -/
theorem limitsFirst_of_classic {source : ByteSource} (path : String)
    (hclassic : ∀ file first, Container.start source = .ok (file, first) → file.big = false) :
    LimitsFirst path source where
  unlimited file first position d hstart hread :=
    (Page.agrees_ofDirectory (Directory.byteCount_lt_of_read (hclassic file first hstart) hread)).1
  agrees file first d hstart hread hexceeds := by
    have hsmall := Directory.byteCount_lt_of_read (hclassic file first hstart) hread
    unfold pages
    rw [hstart]
    refine Chain.followFrom_congr fun d' hread' => ?_
    rw [hread] at hread'
    cases hread'
    exact (Page.agrees_ofDirectory hsmall).eq hexceeds
  exceeds hrefused := by
    have hfault := readSource_eq_limitsExceeded_iff.mp hrefused
    unfold pages at hfault
    split at hfault
    · rename_i cause hstart
      cases hfault
      exact absurd hstart (Container.isUnlimited_start source)
    · rename_i file first hstart
      refine ⟨file, first, ?_⟩
      have hsmall := fun position d =>
        @Directory.byteCount_lt_of_read file (hclassic file first hstart) position d
      have hunlimited := @Chain.fault_followFrom_ne Page file (Page.visit file)
        (fun position d hread => (Page.agrees_ofDirectory (hsmall position d hread)).1)
        [] first List.not_mem_nil
      -- the chain is another one than without the limit, and so is the visit of the first
      -- directory
      by_contra hnone
      refine hunlimited ((congrArg Chain.fault ?_).symm.trans hfault)
      refine Chain.followFrom_congr fun d hread => ?_
      rcases (Page.agrees_ofDirectory (hsmall first d hread)).2 with hsame | hlarge
      · exact hsame
      · exact absurd ⟨d, hstart, hread, hlarge⟩ hnone
  refused file first d page hstart hread hnext hmany hpage :=
    readSource_of_listsTooMany hstart (hclassic file first hstart) hread hnext hmany hpage

/-! ### A file of too many strips -/

/-- The bytes of a field. -/
def fieldBytes (tag code count slot : ℕ) : List UInt8 :=
  littleBytes 2 tag ++ (littleBytes 2 code ++ (littleBytes 4 count ++ littleBytes 4 slot))

/-- An image of one column, each row of which is a strip.  The file ends where the offsets of
the strips are said to be. -/
def manyStrips : ByteSource :=
  .ofFile ⟨([0x49, 0x49, 42, 0] ++ littleBytes 4 8 ++ littleBytes 2 6
    ++ fieldBytes 256 4 1 1 ++ fieldBytes 257 4 1 (listLimit + 1)
    ++ fieldBytes 262 3 1 1 ++ fieldBytes 273 4 (listLimit + 1) 86
    ++ fieldBytes 278 3 1 1 ++ fieldBytes 279 4 (listLimit + 1) 86 ++ littleBytes 4 0).toArray⟩

/-- The only directory of `manyStrips`. -/
def manyStripsDirectory : Directory where
  entries :=
    [{ tag := 256, type := .long, count := 1, slot := littleBytes 4 1 },
      { tag := 257, type := .long, count := 1, slot := littleBytes 4 (listLimit + 1) },
      { tag := 262, type := .short, count := 1, slot := littleBytes 4 1 },
      { tag := 273, type := .long, count := listLimit + 1, slot := littleBytes 4 86 },
      { tag := 278, type := .short, count := 1, slot := littleBytes 4 1 },
      { tag := 279, type := .long, count := listLimit + 1, slot := littleBytes 4 86 }]
  next := 0

set_option maxRecDepth 4000 in
theorem start_manyStrips :
    Container.start manyStrips = .ok (Container.classic manyStrips, 8) := rfl

set_option maxRecDepth 4000 in
theorem read_manyStrips :
    Directory.read (Container.classic manyStrips) 8 = .ok manyStripsDirectory := rfl

theorem ofDirectory_manyStrips :
    Page.ofDirectory (Container.classic manyStrips) manyStripsDirectory .limited
      = .error .limitsExceeded := rfl

theorem readSource_manyStrips (path : String) :
    readSource path manyStrips = .error (.decode .limitsExceeded) := by
  rw [readSource_eq_limitsExceeded_iff]
  unfold pages
  rw [start_manyStrips]
  dsimp only
  unfold Chain.follow
  rw [Chain.followFrom_fault read_manyStrips (.inl rfl) ofDirectory_manyStrips]

/-- The first directory of a file that is refused exceeds the limit. -/
theorem limitsFirst_of_classic_manyStrips :
    LimitsFirst "strips.tif" manyStrips
      ∧ ∃ file first d, Container.start manyStrips = .ok (file, first)
        ∧ Directory.read file first = .ok d ∧ Image.ExceedsLimit d := by
  have hlimits : LimitsFirst "strips.tif" manyStrips := by
    refine limitsFirst_of_classic "strips.tif" fun file first hstart => ?_
    rw [start_manyStrips] at hstart
    cases hstart
    rfl
  obtain ⟨file, first, d, hstart, hread, hexceeds, -⟩ :=
    hlimits.exceeds (readSource_manyStrips "strips.tif")
  exact ⟨hlimits, file, first, d, hstart, hread, hexceeds⟩

/-- The file is refused for the limit.  Without it, what is missing are the offsets. -/
theorem refuses_manyStrips :
    Container.start manyStrips = .ok (Container.classic manyStrips, 8)
      ∧ Directory.read (Container.classic manyStrips) 8 = .ok manyStripsDirectory
      ∧ readSource "strips.tif" manyStrips = .error (.decode .limitsExceeded)
      ∧ Page.ofDirectory (Container.classic manyStrips) manyStripsDirectory .unlimited
        = .error .endOfData :=
  ⟨start_manyStrips, read_manyStrips, readSource_manyStrips "strips.tif", rfl⟩

end GeoTiffRaster

end BlockExtent
