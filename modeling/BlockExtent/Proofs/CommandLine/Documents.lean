import BlockExtent.CommandLine.Run
import BlockExtent.Proofs.Conversion.Directory
import BlockExtent.Proofs.GeoTiff.Levels
import BlockExtent.Proofs.GeoTiff.Pyramid
import Mathlib.Algebra.Order.Floor.Div

/-!
# The documents of a command line

A command line that succeeds has read the raster of its input, and leaves one document
for each of the chosen levels behind: in the output itself, or in a directory with a file
for each level.

## Main definitions

* `LevelChoice.Selects` — the levels that a choice selects.
* `IsLayerOf` — a layer is that of a level of a raster.
* `HasDocument`, `LeavesDocuments` — the documents are at their places.

## Main results

* `isLayerOf_written` — the layer that is written for a level is that of the level.
* `leavesDocuments_convert` — the documents of a conversion.
* `files_runCommandLine` — **the documents of a command line.**
-/

namespace BlockExtent

open GeoJson Tiff

variable {fs fs' : FileSystem} {events events' : List Event}

/-! ### The documents -/

/-- What a choice selects among the levels of a raster: the full resolution image and
all overviews, or a single level. -/
def LevelChoice.Selects (choice : LevelChoice) (overviews : ℕ) (indices : List ℕ) : Prop :=
  match choice with
  | .all => indices = List.range (overviews + 1)
  | .single level => indices.map Int.ofNat = [level]

theorem LevelChoice.selects_of_levels {choice : LevelChoice} {overviews : ℕ} {indices : List ℕ}
    (hlt : overviews < 2 ^ 63) (h : choice.levels overviews = indices.map Int.ofNat) :
    choice.Selects overviews indices := by
  cases choice with
  | all =>
    rw [levels_all hlt] at h
    exact (List.map_injective_iff.mpr (fun _ _ => Int.ofNat.inj) h).symm
  | single level => exact h.symm

theorem LevelChoice.Selects.nodup {choice : LevelChoice} {overviews : ℕ} {indices : List ℕ}
    (h : choice.Selects overviews indices) : indices.Nodup := by
  cases choice with
  | all =>
    obtain rfl := h
    exact List.nodup_range
  | single level =>
    have hlength := congrArg List.length h
    rw [List.length_map] at hlength
    obtain ⟨index, rfl⟩ := List.length_eq_one_iff.mp hlength
    exact List.nodup_singleton index

/-- A layer is that of a level of a raster: it is named after the level, has the EPSG
code of the raster unless that is the default one, and has a ring for each block, row by
row. -/
structure IsLayerOf (raster : GeoTiffRaster) (index : ℕ) (level : PyramidLevel) (layer : Layer) :
    Prop where
  name_eq : layer.name = if index = 0 then "main_image" else s!"overview_{index}"
  code_eq : layer.code = (raster.spatialReference.bind SpatialReference.epsg?).filter (· ≠ 4326)
  length_rings : layer.rings.length = (level.size.width ⌈/⌉ level.blockSize.width)
    * (level.size.height ⌈/⌉ level.blockSize.height)
  ring_eq : ∀ k < layer.rings.length, layer.rings[k]? = some (writtenRing
    (.ofBlock index (raster.geotransform.scaledTo raster.size level.size) level.blockSize
      (k % (level.size.width ⌈/⌉ level.blockSize.width))
      (k / (level.size.width ⌈/⌉ level.blockSize.width))))

/-- The file at a path is one document, of which the layer of a level is read. -/
def HasDocument (fs : FileSystem) (path : String) (raster : GeoTiffRaster) (index : ℕ) : Prop :=
  ∃ level text document layer, raster.level index = .ok level ∧ level.index = index
    ∧ fs.find path = .ok (.file (String.toUTF8 text))
    ∧ Json.parse? text.toList = some document
    ∧ Layer.ofJson? document = some layer ∧ IsLayerOf raster index level layer

/-- The blocks along an axis are as many as it takes to cover it. -/
theorem grid_eq_ceilDiv (level : PyramidLevel) :
    level.grid = { across := level.size.width ⌈/⌉ level.blockSize.width
                   down := level.size.height ⌈/⌉ level.blockSize.height } := by
  have hwidth := level.blockSize_width_pos
  have hheight := level.blockSize_height_pos
  unfold PyramidLevel.grid blocksCovering
  rw [Nat.ceilDiv_eq_add_pred_div, Nat.ceilDiv_eq_add_pred_div, Nat.add_sub_assoc hwidth,
    Nat.add_sub_assoc hheight]

theorem getElem?_toList (scan : BlockScan Float) {k : ℕ} (hk : k < scan.remaining) :
    scan.toList[k]? = some (scan.blockAt (scan.next + k)) := by
  unfold BlockScan.toList
  rw [List.getElem?_map, List.getElem?_range' hk, Nat.one_mul, Option.map_some]

theorem isLayerOf_written {raster : GeoTiffRaster} {index : ℕ} {level : PyramidLevel}
    (hindex : level.index = index) (hfits : level.grid.Fits) :
    IsLayerOf raster index level
      (.written (layerName index) raster.spatialReference (raster.frame.blocks level).toList) where
  name_eq := rfl
  code_eq := by
    change writtenCode raster.spatialReference = _
    rcases raster.spatialReference with _ | code | text
    · rfl
    · by_cases hdefault : code = 4326
      · simp [writtenCode, SpatialReference.epsg?, Option.filter, hdefault]
      · simp [writtenCode, SpatialReference.epsg?, Option.filter, hdefault]
    · rfl
  length_rings := by
    have hscan : (raster.frame.blocks level).remaining = level.grid.count := rfl
    change ((raster.frame.blocks level).toList.map writtenRing).length = _
    rw [List.length_map, BlockScan.length_toList, hscan, Grid.count_of_fits hfits,
      grid_eq_ceilDiv]
  ring_eq := by
    intro k hk
    change k < ((raster.frame.blocks level).toList.map writtenRing).length at hk
    rw [List.length_map, BlockScan.length_toList] at hk
    have hblock := getElem?_toList (raster.frame.blocks level) hk
    change ((raster.frame.blocks level).toList.map writtenRing)[k]? = _
    rw [List.getElem?_map, hblock, Option.map_some]
    -- the scan is at its start, and its rows are as long as those of the grid
    change some (writtenRing (.ofBlock level.index _ level.blockSize
      ((0 + k) % level.grid.across) ((0 + k) / level.grid.across))) = _
    rw [Nat.zero_add, hindex, grid_eq_ceilDiv]
    rfl

theorem hasDocument_of_find {path : String} {raster : GeoTiffRaster} {index : ℕ}
    {level : PyramidLevel} (hlevel : raster.level index = .ok level) (hfits : level.grid.Fits)
    (hfind : fs.find path = .ok (.file (raster.frame.levelBytes index level))) :
    HasDocument fs path raster index := by
  have hindex := GeoTiffRaster.index_of_level hlevel
  obtain ⟨document, hparse, hlayer⟩ := parse?_collectionText (layerName index)
    raster.frame.spatialReference (raster.frame.blocks level).toList
  refine ⟨level, .ofList (collectionText (layerName index) raster.frame.spatialReference
    (raster.frame.blocks level).toList), document, _, hlevel, hindex, hfind, ?_, hlayer,
    isLayerOf_written hindex hfits⟩
  rw [String.toList_ofList]
  exact hparse

/-! ### Whole runs -/

/-- The documents of levels are at their places: that of a single level at the path of
the output, if this has an extension, and otherwise each in a file of its own. -/
def LeavesDocuments (fs : FileSystem) (output : String) (raster : GeoTiffRaster)
    (indices : List ℕ) : Prop :=
  if (Path.extension? output).isSome then
    ∃ index, indices = [index] ∧ HasDocument fs output raster index
  else
    (indices.map fun index => fs.locate (Path.join output (layerName index ++ ".geojson"))).Nodup
      ∧ ∀ index ∈ indices,
        HasDocument fs (Path.join output (layerName index ++ ".geojson")) raster index

/-- Levels in a directory are at their places. -/
theorem leavesDocuments_levelFiles {output : String} {raster : GeoTiffRaster} {indices : List ℕ}
    {write : ℕ → LevelWrite} (hextension : ¬ (Path.extension? output).isSome = true)
    (hnodup : indices.Nodup)
    (hfits : ∀ index level, raster.level index = .ok level → level.grid.Fits)
    (h : ∀ index ∈ indices, raster.levelWrite? fs output index = some (write index)) :
    LeavesDocuments (fs.putFiles (levelFiles write indices)) output raster indices := by
  unfold LeavesDocuments
  rw [if_neg hextension]
  have hlocate : ∀ index ∈ indices, (fs.putFiles (levelFiles write indices)).locate
      (Path.join output (layerName index ++ ".geojson")) = .ok (write index).location :=
    fun index hindex => (isFileAt_levelFiles h hindex).locate_eq
  refine ⟨List.Nodup.map_on ?_ hnodup, ?_⟩
  · intro index hindex other hother hsame
    rw [hlocate index hindex, hlocate other hother] at hsame
    exact eq_of_location_eq h hindex hother (Except.ok.inj hsame)
  · intro index hindex
    obtain ⟨level, hlevel, -, -, hcontent⟩ := levelWrite?_eq_some_iff.mp (h index hindex)
    have hfind := find_levelFiles h hnodup hindex
    rw [hcontent] at hfind
    exact hasDocument_of_find hlevel (hfits index level hlevel) hfind

/-- **A conversion that succeeds leaves the documents of the chosen levels behind.** -/
theorem leavesDocuments_convert {settings : Settings} {written : Written}
    (h : (convert (Access.builtIn FileSystem.store) settings).exec events fs
      = ((.ok written, events'), fs')) :
    ∃ content raster indices, fs.find settings.input = .ok (.file content)
      ∧ GeoTiffRaster.readSource settings.input (.ofFile content) = .ok raster
      ∧ settings.choice.Selects raster.overviewCount indices
      ∧ LeavesDocuments fs' settings.output raster indices := by
  by_cases hextension : (Path.extension? settings.output).isSome = true
  · obtain ⟨raster, dataset, dataset', layers, _, fs₁, _, fs₂, _, _, -, ⟨content, hfind, hraster⟩,
      hcreate, heach, hclose⟩ := convert_eq_ok h
    have hcount : raster.overviewCount < 2 ^ 63 := GeoTiffRaster.overviewCount_lt hraster
    obtain ⟨location, rfl, hfile⟩ := Dataset.create_file_eq_ok hextension hcreate
    -- a single file takes one layer, and a conversion that succeeds wrote at least one
    have hne : settings.choice.levels raster.overviewCount ≠ [] := by
      cases settings.choice with
      | all => simp [LevelChoice.levels_all hcount]
      | single level => exact List.cons_ne_nil _ _
    obtain ⟨index, level, hlevels, hlevel, hlayers, happend⟩ := writeEach_file_eq_ok hne heach
    rw [Dataset.close_eq dataset' _ _ (.inl (by rw [hlayers]; exact Nat.one_ne_zero))] at hclose
    cases hclose
    have hwrites := FileSystem.writesFile_append hfile (raster.frame.levelBytes index level)
    rw [← happend] at hwrites
    refine ⟨content, raster, [index], hfind, hraster,
      LevelChoice.selects_of_levels hcount hlevels, ?_⟩
    unfold LeavesDocuments
    rw [if_pos hextension]
    exact ⟨index, rfl, hasDocument_of_find hlevel (GeoTiffRaster.fits_of_level hraster hlevel)
      (hwrites.isFileAt.find hwrites.lookup_eq)⟩
  · obtain ⟨raster, fs₁, indices, write, hopens, hlevels, hwrites, -, rfl⟩ :=
      convert_directory_eq_ok hextension h
    obtain ⟨content, hfind, hraster⟩ := hopens.input
    have hselects := LevelChoice.selects_of_levels (GeoTiffRaster.overviewCount_lt hraster) hlevels
    exact ⟨content, raster, indices, hfind, hraster, hselects,
      leavesDocuments_levelFiles hextension hselects.nodup
        (fun _ _ => GeoTiffRaster.fits_of_level hraster) hwrites⟩

/-- **A command line that succeeds leaves the documents of the chosen levels behind.**  The
raster is what is read of the input as it was before the run. -/
theorem files_runCommandLine {arguments : List String} {reply : Reply}
    (h : (runCommandLine (Access.builtIn FileSystem.store) arguments).outcome fs
      = ((.ok reply, events'), fs'))
    (hstatus : reply.status = 0) :
    ∃ settings content raster indices,
      Request.parse arguments = .ok (.convert settings)
        ∧ fs.find settings.input = .ok (.file content)
        ∧ GeoTiffRaster.readSource settings.input (.ofFile content) = .ok raster
        ∧ settings.choice.Selects raster.overviewCount indices
        ∧ LeavesDocuments fs' settings.output raster indices := by
  rw [Run.outcome_eq_exec] at h
  unfold runCommandLine at h
  rw [Run.exec_bind, Run.exec_ofExcept] at h
  rcases hparse : Request.parse arguments with cause | settings | _
  · rw [hparse] at h
    cases h
  · rw [hparse] at h
    obtain ⟨written, events₁, fs₁, hconvert, hrest⟩ := Run.exec_bind_eq_ok _ _ h
    obtain ⟨⟨⟩, events₂, fs₂, hreport, hpure⟩ := Run.exec_bind_eq_ok _ _ hrest
    obtain ⟨content, raster, indices, hdocuments⟩ := leavesDocuments_convert hconvert
    cases hreport
    cases hpure
    exact ⟨settings, content, raster, indices, rfl, hdocuments⟩
  · rw [hparse] at h
    cases h
    cases hstatus

/-! ### A run that succeeds -/

/-- A full image of four tiles, and an overview of strips. -/
def twoLevels : List WrittenImage :=
  [{ subfileType := 0, photometric := 1, size := ⟨3, 2⟩, cut := .tiles 2 },
    { subfileType := 1, photometric := 1, size := ⟨2, 1⟩, cut := .strips 4 }]

/-- The bytes of a file with these images. -/
def twoLevelBytes : ByteArray := ⟨(fileBytes twoLevels {}).toArray⟩

/-- A file system with nothing but this file. -/
def twoLevelFiles : FileSystem where
  entries := [(["in.tif"], .file twoLevelBytes)]
  workingDirectory := []

/-- The raster of this file. -/
def twoLevelRaster : GeoTiffRaster where
  path := "in.tif"
  base := { size := ⟨3, 2⟩, blockSize := ⟨2, 2⟩, reduced := false, geo := some {} }
  overviews := [{ size := ⟨2, 1⟩, blockSize := ⟨2, 1⟩, reduced := true, geo := none }]
  geotransform := .identity
  spatialReference := none

theorem readSource_twoLevelBytes :
    GeoTiffRaster.readSource "in.tif" (.ofFile twoLevelBytes) = .ok twoLevelRaster := by
  have hsize : (fileBytes twoLevels {}).length < 2 ^ 32 := by decide +kernel
  have hvalid : ∀ image ∈ twoLevels, image.IsValid := by
    simp only [twoLevels, List.forall_mem_cons]
    refine ⟨?_, ?_, by rintro _ ⟨⟩⟩ <;> constructor <;> decide
  have hholds : Holds (.ofFile twoLevelBytes) 0 (fileBytes twoLevels {}) :=
    ⟨[], [], by simp [twoLevelBytes, ByteSource.ofFile], rfl⟩
  exact GeoTiffRaster.readSource_fileBytes "in.tif" (List.cons_ne_nil _ _) hvalid
    WrittenTags.isValid_empty hholds hsize (Nat.lt_trans hsize (show 2 ^ 32 < 2 ^ 63 by decide))

/-- The settings that its overview is written with. -/
def overviewSettings : Settings where
  input := "in.tif"
  output := "out.geojson"
  format := some "GeoJSON"
  choice := .single 1

theorem exec_convert_overview :
    ∃ written events' fs', (convert (Access.builtIn FileSystem.store) overviewSettings).exec []
      twoLevelFiles = ((.ok written, events'), fs') := by
  obtain ⟨events₁, hread⟩ :=
    GeoTiffRaster.exec_read [] twoLevelFiles "in.tif" (.ofFile twoLevelBytes)
  rw [← GeoTiffRaster.readSource_eq, readSource_twoLevelBytes] at hread
  have hopen : ((Access.builtIn FileSystem.store).openRaster overviewSettings.input).exec []
      twoLevelFiles = ((.ok twoLevelRaster, events₁), twoLevelFiles) := by
    change (Access.openGeoTiff FileSystem.store "in.tif").exec [] twoLevelFiles = _
    unfold Access.openGeoTiff
    rw [Run.exec_bind, Run.exec_attempt, FileSystem.store_read]
    exact hread
  have hdriver : (driverOf overviewSettings : Run (StateM FileSystem) String).exec []
      twoLevelFiles = ((.ok "GeoJSON", []), twoLevelFiles) := rfl
  unfold convert
  rw [Run.exec_bind_of_ok _ _ _ hdriver, Run.exec_bind_of_ok _ _ _ hopen]
  exact ⟨_, _, _, rfl⟩

/-- The arguments for these settings. -/
def overviewArguments : List String := ["-ovr", "1", "in.tif", "out.geojson", "-f", "GeoJSON"]

/-- The overview of this file is written into a single file. -/
theorem files_runCommandLine_overview :
    ∃ events' fs',
      (runCommandLine (Access.builtIn FileSystem.store) overviewArguments).outcome
          twoLevelFiles = ((.ok { status := 0, output := "" }, events'), fs')
        ∧ HasDocument fs' "out.geojson" twoLevelRaster 1 := by
  obtain ⟨written, events₁, fs', hconvert⟩ := exec_convert_overview
  have hparse : Request.parse overviewArguments
      = .ok (.convert overviewSettings) := rfl
  have hrun : ∃ events',
      (runCommandLine (Access.builtIn FileSystem.store) overviewArguments).outcome
          twoLevelFiles = ((.ok { status := 0, output := "" }, events'), fs') := by
    rw [Run.outcome_eq_exec]
    unfold runCommandLine
    rw [hparse]
    change ∃ events', (convert (Access.builtIn FileSystem.store) overviewSettings >>= _).exec []
      twoLevelFiles = ((_, events'), fs')
    rw [Run.exec_bind_of_ok _ _ _ hconvert]
    exact ⟨_, rfl⟩
  obtain ⟨events', hrun⟩ := hrun
  obtain ⟨settings, content, raster, indices, hsettings, hfind, hraster, hselects, hdocuments⟩ :=
    files_runCommandLine hrun rfl
  rw [hparse] at hsettings
  cases hsettings
  cases hfind
  rw [show overviewSettings.input = "in.tif" from rfl, readSource_twoLevelBytes] at hraster
  cases hraster
  have hextension : (Path.extension? overviewSettings.output).isSome = true := rfl
  unfold LeavesDocuments at hdocuments
  rw [if_pos hextension] at hdocuments
  obtain ⟨index, rfl, hdocument⟩ := hdocuments
  cases hselects
  exact ⟨events', fs', hrun, hdocument⟩

end BlockExtent
