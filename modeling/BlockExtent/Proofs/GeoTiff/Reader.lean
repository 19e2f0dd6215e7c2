import BlockExtent.GeoTiff.Raster
import BlockExtent.Proofs.Run.Execution
import BlockExtent.Proofs.Tiff.Chains

/-!
# The reader as a function

Reading a raster touches nothing but its bytes: what comes out is a function of the
path and the pages, and the state of the world stays as it is.

## Main definitions

* `GeoTiffRaster.ofChain` — the raster of the pages of a file.
* `GeoTiffRaster.readSource` — what reading bytes gives.

## Main results

* `GeoTiffRaster.exec_read` — reading a file gives the raster of its pages.
* `GeoTiffRaster.overviewCount_lt` — the overviews of a raster can be counted.
* `GeoTiffRaster.level_eq_ok`, `GeoTiffRaster.level_eq_error` — the levels of a
  raster.
-/

namespace BlockExtent

open Tiff

namespace GeoTiffRaster

/-- The raster of the pages of a file. -/
def ofChain (path : String) (chain : Chain Page) : Except Failure GeoTiffRaster :=
  match chain.fault with
  | some e => .error (.decode e)
  | none => ofImages path (Page.images chain.visits)

variable {σ : Type} (events : List Event) (s : σ)

private theorem exec_reportPages (chain : Chain Page) :
    ∃ events', (reportPages chain : Run (StateM σ) Unit).exec events s
      = ((match chain.fault with
        | some e => .error (.decode e)
        | none => .ok (), events'), s) := by
  unfold reportPages
  rw [Run.exec_bind]
  unfold reportMask
  rw [Run.exec_forM_record]
  cases hfault : chain.fault with
  | some e => exact ⟨_, rfl⟩
  | none => exact ⟨_, rfl⟩

/-- **Reading a file gives the raster of its pages** and leaves the world as it is. -/
theorem exec_read (path : String) (source : ByteSource) :
    ∃ events', (read path source : Run (StateM σ) GeoTiffRaster).exec events s
      = ((ofChain path (pages source), events'), s) := by
  obtain ⟨events₁, hpages⟩ := exec_reportPages events s (pages source)
  unfold read ofChain
  dsimp only
  rw [Run.exec_bind, hpages]
  cases hfault : (pages source).fault with
  | some e => exact ⟨events₁, rfl⟩
  | none =>
    dsimp only
    rw [Run.exec_bind, Run.exec_ofExcept]
    cases himages : ofImages path (Page.images (pages source).visits) with
    | error cause => exact ⟨events₁, rfl⟩
    | ok raster => exact ⟨_, rfl⟩

/-- What reading bytes gives. -/
def readSource (path : String) (source : ByteSource) : Except Failure GeoTiffRaster :=
  ((read path source : Run (StateM Unit) GeoTiffRaster).outcome ()).1.1

theorem readSource_eq (path : String) (source : ByteSource) :
    readSource path source = ofChain path (pages source) := by
  obtain ⟨events', hread⟩ := exec_read [] () path source
  unfold readSource
  rw [Run.outcome_eq_exec, hread]

/-! ### Levels -/

variable {raster : GeoTiffRaster} {index : Nat}

theorem image?_eq_getElem? (raster : GeoTiffRaster) (index : Nat) :
    raster.image? index = (raster.base :: raster.overviews)[index]? := by
  cases index <;> rfl

/-- An image that holds pixels and blocks is a level. -/
theorem level_eq_ok (image : ImagePage)
    (h : (raster.base :: raster.overviews)[index]? = some image) (hsize : ¬ image.size.IsEmpty)
    (hblock : ¬ image.blockSize.IsEmpty) :
    ∃ level, raster.level index = .ok level ∧ level.index = index ∧ level.size = image.size
      ∧ level.blockSize = image.blockSize := by
  obtain ⟨level, hlevel⟩ := PyramidLevel.exists_make index hsize hblock
  refine ⟨level, ?_, PyramidLevel.eq_of_make hlevel⟩
  unfold GeoTiffRaster.level
  rw [image?_eq_getElem?, h]
  dsimp only
  rw [hlevel]

/-- There is no level behind the overviews. -/
theorem level_eq_error (h : raster.overviewCount < index) :
    raster.level index = .error (.noSuchLevel (signedWord 64 index) raster.overviewCount) := by
  have hnone : (raster.base :: raster.overviews)[index]? = none :=
    List.getElem?_eq_none (Nat.succ_le_of_lt h)
  unfold GeoTiffRaster.level
  rw [image?_eq_getElem?, hnone]

/-- A level has the index that was asked for. -/
theorem index_of_level {level : PyramidLevel} (h : raster.level index = .ok level) :
    level.index = index := by
  unfold GeoTiffRaster.level at h
  split at h
  · cases h
  · split at h
    · cases h
    · rename_i hmake
      cases h
      exact (PyramidLevel.eq_of_make hmake).1

end GeoTiffRaster

/-! ### The number of overviews -/

namespace GeoTiffRaster

theorem length_images_le (pages : List Page) : (Page.images pages).length ≤ pages.length :=
  List.length_filterMap_le _ _

theorem length_pyramid?_lt {images overviews : List ImagePage} {base : ImagePage}
    (h : pyramid? images = some (base, overviews)) : overviews.length < images.length := by
  induction images with
  | nil => cases h
  | cons image images ih =>
    rw [pyramid?] at h
    rw [List.length_cons]
    split at h
    · exact Nat.lt_succ_of_lt (ih h)
    · cases h
      exact Nat.lt_succ_of_le (List.length_filter_le _ _)

theorem length_visits_pages_le (source : ByteSource) :
    (pages source).visits.length ≤ source.positionBound := by
  unfold pages
  cases hstart : Container.start source with
  | error e => exact Nat.zero_le _
  | ok found =>
    obtain ⟨file, first⟩ := found
    have hnew : first ∉ [] := List.not_mem_nil
    have hle := Chain.length_visits_le file (fun loading d => Page.ofDirectory file d loading)
      .limited hnew List.nodup_nil (by rintro _ ⟨⟩)
    rw [Container.source_of_start hstart] at hle
    exact hle

/-- **The overviews of a raster can be counted**: each of them, and the full image, has a
position of its own in the file. -/
theorem overviewCount_lt {path : String} {source : ByteSource} {raster : GeoTiffRaster}
    (h : readSource path source = .ok raster) : raster.overviewCount < source.positionBound := by
  rw [readSource_eq] at h
  have hvisits := length_visits_pages_le source
  have himages := length_images_le (pages source).visits
  unfold ofChain at h
  split at h
  · cases h
  · unfold ofImages at h
    split at h
    · cases h
    · rename_i base overviews hpyramid
      have hlt := length_pyramid?_lt hpyramid
      cases h
      change overviews.length < _
      omega

end GeoTiffRaster

end BlockExtent
