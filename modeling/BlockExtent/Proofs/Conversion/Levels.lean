import BlockExtent.Access.BuiltIn
import BlockExtent.Conversion
import BlockExtent.Proofs.DriverChoice
import BlockExtent.Proofs.GeoJson.Files
import BlockExtent.Proofs.GeoTiff.Reader

/-!
# Levels in files

A conversion with the built-in drivers reads the file of a raster and writes the chosen
levels one after the other.  When it succeeds, each of these steps has succeeded.

## Main definitions

* `RasterFrame.levelBytes` — the bytes of the layer of a level.

## Main results

* `writeLevel_eq_ok`, `writeEach_cons_eq_ok` — the steps that have written levels.
* `writeEach_file_eq_ok` — a single file takes a single level.
* `convert_eq_ok` — the steps of a conversion that succeeds.
-/

namespace BlockExtent

open GeoJson

variable {fs fs' : FileSystem} {events events' : List Event}

/-- The bytes of the layer of a level. -/
def RasterFrame.levelBytes (frame : RasterFrame) (index : ℕ) (level : PyramidLevel) : ByteArray :=
  layerBytes (layerName index) frame.spatialReference (frame.blocks level).toList

/-! ### Levels -/

/-- Writing several levels writes the first and then the others. -/
theorem writeEach_cons_eq_ok {σ : Type} {access : Access (StateM σ)} {raster : access.Raster}
    {frame : RasterFrame} {dataset dataset' : access.Dataset} {level : Int} {levels : List Int}
    {written : List WrittenLayer} {s s' : σ}
    (h : (Conversion.writeEach access raster frame dataset (level :: levels)).exec events s
      = ((.ok (written, dataset'), events'), s')) :
    ∃ layer dataset₁ events₁ s₁ others,
      (Conversion.writeLevel access raster frame dataset level).exec events s
        = ((.ok (layer, dataset₁), events₁), s₁)
      ∧ (Conversion.writeEach access raster frame dataset₁ levels).exec events₁ s₁
        = ((.ok (others, dataset'), events'), s') := by
  unfold Conversion.writeEach at h
  obtain ⟨⟨layer, dataset₁⟩, events₁, s₁, hlevel, hrest⟩ := Run.exec_bind_eq_ok _ _ h
  obtain ⟨⟨others, dataset₂⟩, events₂, s₂, hlevels, hpure⟩ := Run.exec_bind_eq_ok _ _ hrest
  cases hpure
  exact ⟨layer, dataset₁, events₁, s₁, others, hlevel, hlevels⟩

section Levels

variable {raster : GeoTiffRaster} {frame : RasterFrame}

/-- Writing a level writes the layer of a level that exists. -/
theorem writeLevel_eq_ok {dataset dataset' : Dataset Location} {level : Int}
    {layer : WrittenLayer}
    (h : (Conversion.writeLevel (Access.builtIn FileSystem.store) raster frame dataset
      level).exec events fs = ((.ok (layer, dataset'), events'), fs')) :
    ∃ index found count events₁ events₂, level = Int.ofNat index
      ∧ raster.level index = .ok found
      ∧ (dataset.writeLayer FileSystem.store (layerName found.index) frame.spatialReference
        (frame.blocks found).toList).exec events₁ fs = ((.ok (count, dataset'), events₂), fs') := by
  cases level with
  | negSucc n =>
    unfold Conversion.writeLevel at h
    obtain ⟨count, events₁, fs₁, -, hthrow⟩ := Run.exec_bind_eq_ok _ _ h
    cases hthrow
  | ofNat index =>
    unfold Conversion.writeLevel at h
    obtain ⟨found, events₁, fs₁, hfound, hrest⟩ := Run.exec_bind_eq_ok _ _ h
    obtain ⟨⟨count, dataset₁⟩, events₂, fs₂, hwrite, hrest⟩ := Run.exec_bind_eq_ok _ _ hrest
    obtain ⟨⟨⟩, events₃, fs₃, hreport, hpure⟩ := Run.exec_bind_eq_ok _ _ hrest
    obtain ⟨hlevel, rfl⟩ := Run.exec_ofExcept_eq_ok events fs hfound
    cases hreport
    cases hpure
    exact ⟨index, found, count, events₁, _, rfl, hlevel, hwrite⟩

/-- **A single file takes a single level.** -/
theorem writeEach_file_eq_ok {path : String} {location : Location} {dataset' : Dataset Location}
    {levels : List Int} {written : List WrittenLayer} (hne : levels ≠ [])
    (h : (Conversion.writeEach (Access.builtIn FileSystem.store) raster frame
      ({ target := .file path location, layers := 0 } : Dataset Location) levels).exec events fs
      = ((.ok (written, dataset'), events'), fs')) :
    ∃ index level, levels = [Int.ofNat index] ∧ raster.level index = .ok level
      ∧ dataset'.layers = 1 ∧ fs' = fs.append location (frame.levelBytes index level) := by
  obtain ⟨level, levels, rfl⟩ := List.exists_cons_of_ne_nil hne
  obtain ⟨layer, dataset₁, events₁, fs₁, others, hlevel, hlevels⟩ := writeEach_cons_eq_ok h
  obtain ⟨index, found, count, _, _, rfl, hfound, hwrite⟩ := writeLevel_eq_ok hlevel
  obtain ⟨-, rfl, happend⟩ := Dataset.writeLayer_file_eq_ok hwrite
  rw [GeoTiffRaster.index_of_level hfound] at happend
  cases levels with
  | nil =>
    cases hlevels
    exact ⟨index, found, rfl, hfound, rfl, happend⟩
  | cons second levels =>
    -- the file has its layer by then, and refuses another one
    obtain ⟨_, _, _, _, _, hsecond, -⟩ := writeEach_cons_eq_ok hlevels
    obtain ⟨_, _, _, _, _, -, -, hrefused⟩ := writeLevel_eq_ok hsecond
    obtain ⟨hlayers, -⟩ := Dataset.writeLayer_file_eq_ok hrefused
    cases hlayers

end Levels

/-! ### The raster and the dataset -/

/-- What the levels of a raster have in common. -/
def GeoTiffRaster.frame (raster : GeoTiffRaster) : RasterFrame where
  size := raster.size
  geotransform := raster.geotransform
  spatialReference := raster.spatialReference

/-- A raster is what reading the bytes of its file gives, and nothing is touched. -/
theorem openGeoTiff_eq_ok {path : String} {raster : GeoTiffRaster}
    (h : (Access.openGeoTiff FileSystem.store path).exec events fs
      = ((.ok raster, events'), fs')) :
    fs' = fs ∧ ∃ content, fs.find path = .ok (.file content)
      ∧ GeoTiffRaster.readSource path (.ofFile content) = .ok raster := by
  unfold Access.openGeoTiff at h
  obtain ⟨found, events₁, fs₁, hattempt, hrest⟩ := Run.exec_bind_eq_ok _ _ h
  have hfind := Run.exec_attempt_eq_ok _ _ hattempt
  rw [FileSystem.store_read] at hfind
  rcases hnode : fs.find path with cause | ⟨⟩ | content
  · rw [hnode] at hfind
    cases hfind
  · rw [hnode] at hfind
    cases hfind
    cases hrest
  · rw [hnode] at hfind
    cases hfind
    dsimp only at hrest
    obtain ⟨events₂, hread⟩ := GeoTiffRaster.exec_read events₁ fs path (.ofFile content)
    rw [hread] at hrest
    simp only [Prod.mk.injEq] at hrest
    obtain ⟨⟨hraster, -⟩, rfl⟩ := hrest
    refine ⟨rfl, content, rfl, ?_⟩
    rw [GeoTiffRaster.readSource_eq]
    exact hraster

/-- The dataset of any driver that there is gets made by the dataset module. -/
theorem makeGeoJson_eq_ok {driver path : String} {dataset : Dataset Location}
    (h : (Access.makeGeoJson FileSystem.store driver path).exec events fs
      = ((.ok dataset, events'), fs')) :
    Access.isGeoJson driver = true
      ∧ (Dataset.create FileSystem.store path).exec events fs = ((.ok dataset, events'), fs') := by
  unfold Access.makeGeoJson at h
  split at h
  · rename_i hdriver
    exact ⟨hdriver, h⟩
  · cases h

theorem exec_warnOfRotation {σ : Type} (t : Geotransform Float) (levels : List Int)
    (events : List Event) (s : σ) :
    ∃ events', (warnOfRotation t levels : Run (StateM σ) Unit).exec events s
      = ((.ok (), events'), s) := by
  unfold warnOfRotation
  split <;> exact ⟨_, rfl⟩

/-- The chosen levels are written in the frame of the raster. -/
theorem exec_writeChosen {σ : Type} (store : FileStore (StateM σ)) (raster : GeoTiffRaster)
    (dataset : Dataset store.Handle) (choice : LevelChoice) (events : List Event) (s : σ) :
    ∃ events₁, (writeChosen (Access.builtIn store) raster dataset choice).exec events s
      = (Conversion.writeEach (Access.builtIn store) raster raster.frame dataset
          (choice.levels raster.overviewCount)).exec events₁ s := by
  have hlevels : (chosenLevels (Access.builtIn store) raster choice).exec events s
      = ((.ok (choice.levels raster.overviewCount), events), s) := by
    cases choice <;> rfl
  obtain ⟨events₁, hwarn⟩ := exec_warnOfRotation raster.geotransform
    (choice.levels raster.overviewCount) events s
  refine ⟨events₁, ?_⟩
  unfold writeChosen
  rw [Run.exec_bind, hlevels]
  change (warnOfRotation raster.geotransform (choice.levels raster.overviewCount) >>= fun _ =>
    Conversion.writeEach (Access.builtIn store) raster raster.frame dataset
      (choice.levels raster.overviewCount)).exec events s = _
  rw [Run.exec_bind, hwarn]

/-- The chosen levels have been written in the frame of the raster. -/
theorem writeChosen_eq_ok {raster : GeoTiffRaster} {dataset dataset' : Dataset Location}
    {choice : LevelChoice} {written : List WrittenLayer}
    (h : (writeChosen (Access.builtIn FileSystem.store) raster dataset choice).exec events fs
      = ((.ok (written, dataset'), events'), fs')) :
    ∃ events₁, (Conversion.writeEach (Access.builtIn FileSystem.store) raster raster.frame dataset
      (choice.levels raster.overviewCount)).exec events₁ fs
        = ((.ok (written, dataset'), events'), fs') := by
  obtain ⟨events₁, hchosen⟩ :=
    exec_writeChosen FileSystem.store raster dataset choice events fs
  exact ⟨events₁, hchosen.symm.trans h⟩

/-- A conversion opens the raster, makes the dataset, writes the chosen levels and
completes the dataset. -/
theorem convert_eq_ok {settings : Settings} {written : Written}
    (h : (convert (Access.builtIn FileSystem.store) settings).exec events fs
      = ((.ok written, events'), fs')) :
    ∃ raster dataset dataset' layers events₁ fs₁ events₂ fs₂ events₃ events₄,
      (settledDriver settings = .ok written.driver ∧ Access.isGeoJson written.driver = true
        ∧ written.layers = layers)
      ∧ (∃ content, fs.find settings.input = .ok (.file content)
        ∧ GeoTiffRaster.readSource settings.input (.ofFile content) = .ok raster)
      ∧ (Dataset.create FileSystem.store settings.output).exec events₁ fs
        = ((.ok dataset, events₂), fs₁)
      ∧ (Conversion.writeEach (Access.builtIn FileSystem.store) raster raster.frame dataset
        (settings.choice.levels raster.overviewCount)).exec events₃ fs₁
          = ((.ok (layers, dataset'), events₄), fs₂)
      ∧ (Dataset.close FileSystem.store dataset').exec events₄ fs₂
        = ((.ok (), events'), fs') := by
  obtain ⟨eventsD, hdriver⟩ := exec_driverOf settings events fs
  unfold convert at h
  rw [Run.exec_bind, hdriver] at h
  cases hsettled : settledDriver settings with
  | error cause =>
    rw [hsettled] at h
    cases h
  | ok driver =>
    rw [hsettled] at h
    dsimp only at h
    obtain ⟨raster, events₁, fs₁, hopen, hrest⟩ := Run.exec_bind_eq_ok _ _ h
    obtain ⟨dataset, events₂, fs₂, hmake, hrest⟩ := Run.exec_bind_eq_ok _ _ hrest
    obtain ⟨⟨⟩, events₃, fs₃, hreport, hrest⟩ := Run.exec_bind_eq_ok _ _ hrest
    obtain ⟨⟨layers, dataset'⟩, events₄, fs₄, hchosen, hrest⟩ := Run.exec_bind_eq_ok _ _ hrest
    obtain ⟨⟨⟩, events₅, fs₅, hclose, hpure⟩ := Run.exec_bind_eq_ok _ _ hrest
    obtain ⟨rfl, hraster⟩ := openGeoTiff_eq_ok hopen
    cases hreport
    cases hpure
    obtain ⟨events₆, heach⟩ := writeChosen_eq_ok hchosen
    obtain ⟨hgeoJson, hcreate⟩ := makeGeoJson_eq_ok hmake
    exact ⟨raster, dataset, dataset', layers, events₁, fs₂, events₂, fs₄, events₆, events₄,
      ⟨rfl, hgeoJson, rfl⟩, hraster, hcreate, heach, hclose⟩

end BlockExtent
