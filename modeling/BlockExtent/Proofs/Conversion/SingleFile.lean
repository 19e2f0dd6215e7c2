import BlockExtent.Proofs.CommandLine.Arguments
import BlockExtent.Proofs.Conversion.Directory

/-!
# Conversions into a single file

A single file takes one layer.  When more levels are chosen, the first of them is written
and the second one is refused; the file is then what the conversion of the first level alone
leaves.

## Main definitions

* `OpensFile` — a conversion finds what it takes to write into a single file.

## Main results

* `writeEach_file_fails` — of several levels, the first is written and the second refused.
* `convert_file_gives` — a conversion of one level into a single file.
* `convert_file_fails` — a conversion of several levels into a single file.
-/

namespace BlockExtent

open GeoJson

variable {raster : GeoTiffRaster} {fs fs' fs₁ : FileSystem} {location : Location}
  {index : ℕ} {level : PyramidLevel}

/-! ### Levels -/

/-- A file without a layer takes a level. -/
theorem writeLevel_file_gives (hlevel : raster.level index = .ok level) (path : String)
    (location : Location) (fs : FileSystem) :
    Run.Gives (Conversion.writeLevel (Access.builtIn FileSystem.store) raster raster.frame
      ({ target := .file path location, layers := 0 } : Dataset Location) (Int.ofNat index)) fs
      (raster.frame.writtenLayer index level, { target := .file path location, layers := 1 })
      (fs.append location (raster.frame.levelBytes index level)) := by
  have hindex := GeoTiffRaster.index_of_level hlevel
  have hadd : Run.Gives ((Access.builtIn FileSystem.store).addLayer
      ({ target := .file path location, layers := 0 } : Dataset Location) (layerName index)
      raster.frame.spatialReference (raster.frame.blocks level)) fs
      ((raster.frame.blocks level).toList.length, { target := .file path location, layers := 1 })
      (fs.append location (raster.frame.levelBytes index level)) :=
    fun events => ⟨events, Dataset.exec_writeLayer_file path location _ _ _ events fs⟩
  unfold Conversion.writeLevel
  refine (Run.gives_ofExcept hlevel id fs).bind ?_
  dsimp only
  rw [hindex]
  refine hadd.bind ?_
  exact (Run.gives_record _ _).bind (Run.gives_pure _ _)

/-- A file that has a layer refuses a level, and nothing is touched. -/
theorem writeLevel_file_fails (hlevel : raster.level index = .ok level) {layers : ℕ}
    (hlayers : layers ≠ 0) (path : String) (location : Location) (fs : FileSystem) :
    Run.Fails (Conversion.writeLevel (Access.builtIn FileSystem.store) raster raster.frame
      ({ target := .file path location, layers } : Dataset Location) (Int.ofNat index)) fs
      (.singleLayerOnly driverName (layerName index)) fs := by
  have hindex := GeoTiffRaster.index_of_level hlevel
  have hrefused : Run.Fails ((Access.builtIn FileSystem.store).addLayer
      ({ target := .file path location, layers } : Dataset Location) (layerName index)
      raster.frame.spatialReference (raster.frame.blocks level)) fs
      (.singleLayerOnly driverName (layerName index)) fs :=
    fun events => ⟨events, Dataset.exec_writeLayer_file_of_ne hlayers path location _ _ _ events fs⟩
  unfold Conversion.writeLevel
  refine (Run.gives_ofExcept hlevel id fs).bind_fails ?_
  dsimp only
  rw [hindex]
  exact hrefused.bind _

section WriteEach

variable {σ : Type} {access : Access (StateM σ)} {raster : access.Raster} {frame : RasterFrame}
  {dataset dataset₁ : access.Dataset} {level : Int} {levels : List Int} {layer : WrittenLayer}
  {cause : Failure} {s s₁ s' : σ}

/-- No level is written after one that fails. -/
theorem writeEach_cons_fails
    (hlevel : Run.Fails (Conversion.writeLevel access raster frame dataset level) s cause s')
    (levels : List Int) :
    Run.Fails (Conversion.writeEach access raster frame dataset (level :: levels)) s cause s' := by
  unfold Conversion.writeEach
  exact hlevel.bind _

/-- Levels fail after one that is written. -/
theorem writeEach_cons_fails_of_gives
    (hlevel : Run.Gives (Conversion.writeLevel access raster frame dataset level) s
      (layer, dataset₁) s₁)
    (hlevels : Run.Fails (Conversion.writeEach access raster frame dataset₁ levels) s₁ cause s') :
    Run.Fails (Conversion.writeEach access raster frame dataset (level :: levels)) s cause s' := by
  unfold Conversion.writeEach
  exact hlevel.bind_fails (hlevels.bind _)

end WriteEach

/-- **Of several levels, the first is written and the second refused.** -/
theorem writeEach_file_fails {second : ℕ} {level₂ : PyramidLevel}
    (hfirst : raster.level index = .ok level) (hsecond : raster.level second = .ok level₂)
    (levels : List Int) (path : String) (location : Location) (fs : FileSystem) :
    Run.Fails (Conversion.writeEach (Access.builtIn FileSystem.store) raster raster.frame
      ({ target := .file path location, layers := 0 } : Dataset Location)
      (Int.ofNat index :: Int.ofNat second :: levels)) fs
      (.singleLayerOnly driverName (layerName second))
      (fs.append location (raster.frame.levelBytes index level)) := by
  have hrefused := writeLevel_file_fails hsecond Nat.one_ne_zero path location
    (fs.append location (raster.frame.levelBytes index level))
  exact writeEach_cons_fails_of_gives (writeLevel_file_gives hfirst path location fs)
    (writeEach_cons_fails hrefused levels)

/-! ### Conversions -/

/-- The chosen levels are those that writing fails with. -/
theorem writeChosen_fails {dataset : Dataset Location} {choice : LevelChoice} {cause : Failure}
    (h : Run.Fails (Conversion.writeEach (Access.builtIn FileSystem.store) raster raster.frame
      dataset (choice.levels raster.overviewCount)) fs cause fs') :
    Run.Fails (writeChosen (Access.builtIn FileSystem.store) raster dataset choice) fs
      cause fs' := by
  intro events
  obtain ⟨events₁, hchosen⟩ := exec_writeChosen FileSystem.store raster dataset choice events fs
  obtain ⟨events', hfails⟩ := h events₁
  exact ⟨events', hchosen.trans hfails⟩

/-- A conversion finds what it takes to write into a single file: a driver, a raster, and a
path that a file can be made at. -/
structure OpensFile (settings : Settings) (driver : String) (raster : GeoTiffRaster)
    (location : Location) (fs fs₁ : FileSystem) : Prop where
  extension : (Path.extension? settings.output).isSome = true
  settled : settledDriver settings = .ok driver
  isGeoJson : Access.isGeoJson driver = true
  input : ∃ content, fs.find settings.input = .ok (.file content)
    ∧ GeoTiffRaster.readSource settings.input (.ofFile content) = .ok raster
  file : fs.createFile settings.output = .ok (location, fs₁)

namespace OpensFile

variable {settings : Settings} {driver : String}

/-- The level that is chosen makes no difference to what a conversion finds. -/
theorem atLevel (h : OpensFile settings driver raster location fs fs₁) (index : ℕ) :
    OpensFile (settings.atLevel index) driver raster location fs fs₁ :=
  ⟨h.extension, h.settled, h.isGeoJson, h.input, h.file⟩

/-- The dataset is an empty file. -/
theorem makeGeoJson_gives (h : OpensFile settings driver raster location fs fs₁) :
    Run.Gives (Access.makeGeoJson FileSystem.store driver settings.output) fs
      { target := .file settings.output location, layers := 0 } fs₁ := by
  have hcreate : FileSystem.store.create settings.output fs = (.ok location, fs₁) := by
    rw [FileSystem.store_create, h.file]
  unfold Access.makeGeoJson
  rw [if_pos h.isGeoJson]
  unfold Dataset.create
  rw [if_pos h.extension]
  exact (Run.gives_attempt hcreate _).bind (Run.gives_pure _ _)

/-- **A conversion of one level into a single file** leaves the layer of the level in it. -/
theorem convert_file_gives (h : OpensFile settings driver raster location fs fs₁)
    (hlevels : settings.choice.levels raster.overviewCount = [Int.ofNat index])
    (hlevel : raster.level index = .ok level) :
    Run.Gives (convert (Access.builtIn FileSystem.store) settings) fs
      { driver, layers := [raster.frame.writtenLayer index level] }
      (fs₁.append location (raster.frame.levelBytes index level)) := by
  obtain ⟨content, hfind, hraster⟩ := h.input
  have hnone : Run.Gives (Conversion.writeEach (Access.builtIn FileSystem.store) raster
      raster.frame ({ target := .file settings.output location, layers := 1 } : Dataset Location) [])
      (fs₁.append location (raster.frame.levelBytes index level))
      ([], { target := .file settings.output location, layers := 1 })
      (fs₁.append location (raster.frame.levelBytes index level)) := Run.gives_pure _ _
  have heach := writeEach_cons_gives (writeLevel_file_gives hlevel settings.output location fs₁) hnone
  rw [← hlevels] at heach
  have hclose : Run.Gives (Dataset.close FileSystem.store
      ({ target := .file settings.output location, layers := 1 } : Dataset Location))
      (fs₁.append location (raster.frame.levelBytes index level)) ()
      (fs₁.append location (raster.frame.levelBytes index level)) :=
    fun events => ⟨events, Dataset.close_eq _ events _ (.inl Nat.one_ne_zero)⟩
  unfold convert
  refine (driverOf_gives h.settled fs).bind ?_
  refine (openGeoTiff_gives hfind hraster).bind (h.makeGeoJson_gives.bind ?_)
  refine (Run.gives_record _ _).bind ((writeChosen_gives heach).bind ?_)
  exact hclose.bind (Run.gives_pure _ _)

/-- **A conversion of several levels into a single file** fails at the second one, and leaves
the layer of the first one in the file. -/
theorem convert_file_fails (h : OpensFile settings driver raster location fs fs₁) {second : ℕ}
    {level₂ : PyramidLevel} {levels : List Int}
    (hlevels : settings.choice.levels raster.overviewCount
      = Int.ofNat index :: Int.ofNat second :: levels)
    (hfirst : raster.level index = .ok level) (hsecond : raster.level second = .ok level₂) :
    Run.Fails (convert (Access.builtIn FileSystem.store) settings) fs
      (.singleLayerOnly driverName (layerName second))
      (fs₁.append location (raster.frame.levelBytes index level)) := by
  obtain ⟨content, hfind, hraster⟩ := h.input
  have heach := writeEach_file_fails hfirst hsecond levels settings.output location fs₁
  rw [← hlevels] at heach
  unfold convert
  refine (driverOf_gives h.settled fs).bind_fails ?_
  refine (openGeoTiff_gives hfind hraster).bind_fails (h.makeGeoJson_gives.bind_fails ?_)
  refine (Run.gives_record _ _).bind_fails ?_
  exact (writeChosen_fails heach).bind _

end OpensFile

end BlockExtent
