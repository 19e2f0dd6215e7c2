import BlockExtent.Proofs.Conversion.Levels
import BlockExtent.Proofs.File.Disk
import BlockExtent.Proofs.GeoTiff.Levels

/-!
# What a conversion touches

A conversion on any disk goes through its steps until one of them fails.  Before the dataset is
made nothing is touched.  From then on only the files of the output and the directories for them
are, and a failure is one of writing: every level that is fetched without being asked for by its
number is there.

## Main definitions

* `Settings.WritesAt`, `Settings.MakesAt` — the paths of the files that a conversion may write,
  and of the directories that it may make.
* `Failure.IsOfOpening`, `Failure.IsOfWriting` — the failures before and after the dataset is
  made.
* `Disk.opened` — the raster at a path.
* `Disk.StepEnds` — how a step of writing ends.
* `Disk.ConversionEnds` — how a conversion ends.

## Main results

* `Disk.ensures_writeLayer`, `Disk.ensures_writeLevel`, `Disk.ensures_writeEach` — the steps of
  writing.
* `Disk.ensures_convert` — **how a conversion ends.**
-/

namespace BlockExtent

open GeoJson
open FileSystem (ChangesOnly)

/-! ### Choices of levels -/

/-- A level is one of those that are asked for. -/
def LevelChoice.Includes : LevelChoice → (index : Nat) → Prop
  | .all, _ => True
  | .single level, index => level = index

theorem LevelChoice.includes_of_mem_levels {choice : LevelChoice} {count index : Nat}
    (h : Int.ofNat index ∈ choice.levels count) : choice.Includes index := by
  cases choice with
  | all => trivial
  | single level => exact (List.mem_singleton.mp h).symm

/-- There is no level below zero among all levels. -/
theorem LevelChoice.ne_all_of_negSucc_mem {choice : LevelChoice} {count n : Nat}
    (h : Int.negSucc n ∈ choice.levels count) : choice ≠ .all := by
  rintro rfl
  obtain ⟨index, -, hindex⟩ := List.mem_map.mp h
  cases hindex

/-! ### Failures -/

/-- The failures of settling a driver, and of opening a raster. -/
def Failure.IsOfOpening : Failure → Prop
  | .file _ | .decode _ | .noFullImage _ | .unknownExtension _ | .driverNotBuiltIn _ => True
  | _ => False

/-- The failures of writing levels, and of storing what has been written.  A level that is not
there has been asked for by its number. -/
def Failure.IsOfWriting (choice : LevelChoice) : Failure → Prop
  | .other _ | .file _ | .singleLayerOnly _ _ => True
  | .noSuchLevel _ _ => choice ≠ .all
  | _ => False

theorem isOfOpening_of_settledDriver {settings : Settings} {cause : Failure}
    (h : settledDriver settings = .error cause) : cause.IsOfOpening := by
  unfold settledDriver at h
  split at h
  · cases h
  · split at h
    · cases h
    · split at h
      · cases h
      · split at h
        · cases h
          trivial
        · cases h

namespace GeoTiffRaster

variable {path : String} {source : Tiff.ByteSource} {raster : GeoTiffRaster} {cause : Failure}

theorem isOfOpening_of_readSource (h : readSource path source = .error cause) :
    cause.IsOfOpening := by
  rw [readSource_eq] at h
  unfold ofChain at h
  split at h
  · cases h
    trivial
  · unfold ofImages at h
    split at h
    · cases h
      trivial
    · cases h

/-- **A level that cannot be fetched has been asked for by its number**, when the raster comes
from a file. -/
theorem isOfWriting_of_level {content : ByteArray} {choice : LevelChoice} {index : Nat}
    (hraster : readSource path (.ofFile content) = .ok raster)
    (hlevel : Int.ofNat index ∈ choice.levels raster.overviewCount)
    (h : raster.level index = .error cause) : cause.IsOfWriting choice := by
  have hoffers := offersLevels_of_readSource hraster
  by_cases hindex : index ≤ raster.overviewCount
  · obtain ⟨level, hok, -⟩ := hoffers.level_eq_ok index hindex
    rw [hok] at h
    cases h
  · rw [level_eq_error (Nat.lt_of_not_le hindex)] at h
    cases h
    rintro rfl
    rw [LevelChoice.levels_all (overviewCount_lt hraster)] at hlevel
    obtain ⟨n, hn, hnindex⟩ := List.mem_map.mp hlevel
    cases hnindex
    exact hindex (Nat.le_of_lt_succ (List.mem_range.mp hn))

end GeoTiffRaster

/-! ### Opening a raster -/

namespace Disk

variable {σ α β : Type} {disk : Disk σ}

/-- What opening the raster at a path gives. -/
def opened (disk : Disk σ) (path : String) (s : σ) : Except Failure GeoTiffRaster :=
  ((Access.openGeoTiff disk.store path).outcome s).1.1

/-- Opening a raster touches nothing.  A raster that has been opened is that of a file. -/
theorem exec_openGeoTiff (disk : Disk σ) (path : String) (s : σ) :
    ∃ result s', (∀ events, ∃ events', (Access.openGeoTiff disk.store path).exec events s
        = ((result, events'), s'))
      ∧ disk.files s' = disk.files s
      ∧ match result with
        | .ok raster => ∃ content, (disk.files s).find path = .ok (.file content)
            ∧ GeoTiffRaster.readSource path (.ofFile content) = .ok raster
        | .error cause => cause.IsOfOpening := by
  have hfiles := disk.files_read path s
  rcases hread : disk.store.read path s with ⟨cause | found, s'⟩
  · rw [hread] at hfiles
    refine ⟨.error (.file cause), s', fun events => ⟨events, ?_⟩, hfiles, trivial⟩
    unfold Access.openGeoTiff
    rw [Run.exec_bind, Run.exec_attempt, hread]
    rfl
  · rw [hread] at hfiles
    cases found with
    | unreadable cause =>
      refine ⟨.error (.decode (.unreadable cause)), s', fun events => ⟨events, ?_⟩, hfiles, trivial⟩
      unfold Access.openGeoTiff
      rw [Run.exec_bind, Run.exec_attempt, hread]
      rfl
    | bytes content =>
      refine ⟨GeoTiffRaster.readSource path (.ofFile content), s', fun events => ?_, hfiles, ?_⟩
      · unfold Access.openGeoTiff
        rw [Run.exec_bind, Run.exec_attempt, hread, GeoTiffRaster.readSource_eq]
        exact GeoTiffRaster.exec_read events s' path (.ofFile content)
      · cases hraster : GeoTiffRaster.readSource path (.ofFile content) with
        | error cause => exact GeoTiffRaster.isOfOpening_of_readSource hraster
        | ok raster => exact ⟨content, disk.find_of_read hread, hraster⟩

/-- What is opened is opened whatever has been recorded before, and touches nothing. -/
theorem ensures_openGeoTiff (disk : Disk σ) (path : String) (s : σ) :
    Run.Ensures (Access.openGeoTiff disk.store path) s
      fun result s' => result = disk.opened path s ∧ disk.files s' = disk.files s := by
  obtain ⟨result, s', hexec, hfiles, -⟩ := disk.exec_openGeoTiff path s
  refine Run.ensures_of_exec hexec ⟨?_, hfiles⟩
  obtain ⟨events', houtcome⟩ := hexec []
  unfold opened
  rw [Run.outcome_eq_exec, houtcome]

variable {path : String} {s s₀ : σ}

theorem opened_eq_ok {raster : GeoTiffRaster} (h : disk.opened path s = .ok raster) :
    ∃ content, (disk.files s).find path = .ok (.file content)
      ∧ GeoTiffRaster.readSource path (.ofFile content) = .ok raster := by
  obtain ⟨result, s', hexec, -, hresult⟩ := disk.exec_openGeoTiff path s
  obtain ⟨events', houtcome⟩ := hexec []
  unfold opened at h
  rw [Run.outcome_eq_exec, houtcome] at h
  subst h
  exact hresult

theorem isOfOpening_of_opened {cause : Failure} (h : disk.opened path s = .error cause) :
    cause.IsOfOpening := by
  obtain ⟨result, s', hexec, -, hresult⟩ := disk.exec_openGeoTiff path s
  obtain ⟨events', houtcome⟩ := hexec []
  unfold opened at h
  rw [Run.outcome_eq_exec, houtcome] at h
  subst h
  exact hresult

end Disk

/-! ### Steps of writing -/

/-- The paths of the files that a conversion of a raster may write: the output, or the files in
it of the levels that are asked for and there. -/
def Settings.WritesAt (settings : Settings) (raster : GeoTiffRaster) (path : String) : Prop :=
  if (Path.extension? settings.output).isSome = true then path = settings.output
  else ∃ index level, settings.choice.Includes index ∧ raster.level index = .ok level
    ∧ path = Path.join settings.output (layerName index ++ ".geojson")

/-- A path with an extension is that of a file. -/
theorem Settings.writesAt_output {settings : Settings} (raster : GeoTiffRaster)
    (h : (Path.extension? settings.output).isSome = true) :
    settings.WritesAt raster settings.output := by
  unfold WritesAt
  rw [if_pos h]

/-- The paths of the directories that a conversion may make. -/
def Settings.MakesAt (settings : Settings) (path : String) : Prop :=
  ¬ (Path.extension? settings.output).isSome = true ∧ path ∈ Path.ancestors settings.output

namespace Disk

variable {σ α β : Type}

/-- A dataset is at a path. -/
def HoldsDataset (disk : Disk σ) (path : String) (dataset : Dataset disk.store.Handle) (s : σ) :
    Prop :=
  match dataset.target with
  | .file _ handle => (Path.extension? path).isSome = true
      ∧ (disk.files s).locate path = .ok (disk.location handle)
  | .directory directory => ¬ (Path.extension? path).isSome = true ∧ directory = path

/-- How a step of writing ends: nothing has been touched that must not be, and there is a result
as it should be or a failure of writing. -/
def StepEnds (disk : Disk σ) (settings : Settings) (raster : GeoTiffRaster) (s₀ : σ)
    (good : α → σ → Prop) (result : Except Failure α) (s : σ) : Prop :=
  ChangesOnly (settings.WritesAt raster) settings.MakesAt (disk.files s₀) (disk.files s)
    ∧ match result with
      | .ok a => good a s
      | .error cause => cause.IsOfWriting settings.choice

section Steps

variable {disk : Disk σ} {settings : Settings} {raster : GeoTiffRaster} {s₀ s : σ}
  {good : α → σ → Prop} {good' : β → σ → Prop}

theorem stepEnds_bind {run : Run (StateM σ) α} {next : α → Run (StateM σ) β}
    (h : Run.Ensures run s (disk.StepEnds settings raster s₀ good))
    (hnext : ∀ a s₁,
      ChangesOnly (settings.WritesAt raster) settings.MakesAt (disk.files s₀) (disk.files s₁) →
      good a s₁ → Run.Ensures (next a) s₁ (disk.StepEnds settings raster s₀ good')) :
    Run.Ensures (run >>= next) s (disk.StepEnds settings raster s₀ good') :=
  h.bind (fun a s₁ hends => hnext a s₁ hends.1 hends.2) fun _ _ hends => hends

variable
  (hchanges : ChangesOnly (settings.WritesAt raster) settings.MakesAt (disk.files s₀)
    (disk.files s))
include hchanges

/-- A call of the disk that touches nothing that must not be, and whose failure is one of
writing. -/
theorem stepEnds_attempt {effect : StateM σ (Except FileError α)} {asError : FileError → Failure}
    (hfailure : ∀ cause, (asError cause).IsOfWriting settings.choice)
    (heffect : ChangesOnly (settings.WritesAt raster) settings.MakesAt (disk.files s)
      (disk.files (effect s).2))
    (hgood : ∀ a s', effect s = (.ok a, s') → good a s') :
    Run.Ensures (Run.attempt asError effect) s (disk.StepEnds settings raster s₀ good) := by
  refine Run.ensures_attempt ⟨hchanges.trans heffect, ?_⟩
  rcases hresult : effect s with ⟨cause | a, s'⟩
  · exact hfailure cause
  · exact hgood a s' hresult

/-- A path leads to the file that is made at it. -/
theorem stepEnds_create {path : String} (hpath : settings.WritesAt raster path) :
    Run.Ensures (Run.attempt .file (disk.store.create path)) s
      (disk.StepEnds settings raster s₀ fun handle s' =>
        (disk.files s').locate path = .ok (disk.location handle)) :=
  stepEnds_attempt hchanges (fun _ => trivial) (changesOnly_create hpath s)
    fun _ _ hcreate => locate_of_create hcreate

/-- A path goes on leading to the file at it when bytes are added to the file. -/
theorem stepEnds_append {handle : disk.store.Handle} {path : String}
    (hpath : settings.WritesAt raster path)
    (hlocate : (disk.files s).locate path = .ok (disk.location handle)) (bytes : ByteArray) :
    Run.Ensures (Run.attempt .file (disk.store.append handle bytes)) s
      (disk.StepEnds settings raster s₀ fun _ s' =>
        (disk.files s').locate path = .ok (disk.location handle)) := by
  have happend : ChangesOnly (settings.WritesAt raster) settings.MakesAt (disk.files s)
      (disk.files (disk.store.append handle bytes s).2) := changesOnly_append hpath hlocate bytes
  refine stepEnds_attempt hchanges (fun _ => trivial) happend fun _ s' hresult => ?_
  rw [hresult] at happend
  exact happend.grows.locate hlocate

/-- Storing what has been added to a file touches nothing. -/
theorem stepEnds_sync (path : String) (handle : disk.store.Handle) :
    Run.Ensures (Run.attempt (Dataset.notStored path) (disk.store.sync handle)) s
      (disk.StepEnds settings raster s₀ fun _ _ => True) := by
  refine stepEnds_attempt hchanges (fun _ => trivial) ?_ fun _ _ _ => trivial
  rw [disk.files_sync]
  exact .refl _ _ _

/-- A layer is added to a file that has been made at a path. -/
theorem ensures_writeCollection {handle : disk.store.Handle} {path : String}
    (hpath : settings.WritesAt raster path)
    (hlocate : (disk.files s).locate path = .ok (disk.location handle)) (name : String)
    (reference : Option SpatialReference) (blocks : List (BlockRectangle Float)) :
    Run.Ensures (writeCollection disk.store handle name reference blocks) s
      (disk.StepEnds settings raster s₀ fun _ s' =>
        (disk.files s').locate path = .ok (disk.location handle)) := by
  refine stepEnds_bind (stepEnds_append hchanges hpath hlocate _) fun _ s₁ hchanges₁ hlocate₁ => ?_
  exact Run.ensures_pure ⟨hchanges₁, hlocate₁⟩

/-- **A layer is written where it may be.** -/
theorem ensures_writeLayer {dataset : Dataset disk.store.Handle} {name : String}
    (hholds : disk.HoldsDataset settings.output dataset s)
    (hpath : ¬ (Path.extension? settings.output).isSome = true →
      settings.WritesAt raster (Dataset.layerPath settings.output name))
    (reference : Option SpatialReference) (blocks : List (BlockRectangle Float)) :
    Run.Ensures (dataset.writeLayer disk.store name reference blocks) s
      (disk.StepEnds settings raster s₀ fun written s' =>
        disk.HoldsDataset settings.output written.2 s') := by
  obtain ⟨target, layers⟩ := dataset
  unfold Dataset.writeLayer
  cases target with
  | file path handle =>
    obtain ⟨hextension, hlocate⟩ := hholds
    dsimp only
    by_cases hlayers : layers ≠ 0
    · rw [if_pos hlayers]
      exact Run.ensures_of_exec (fun events => ⟨events, rfl⟩) ⟨hchanges, trivial⟩
    · rw [if_neg hlayers]
      have hwrites := Settings.writesAt_output raster hextension
      refine stepEnds_bind (ensures_writeCollection hchanges hwrites hlocate name reference blocks)
        fun count s₁ hchanges₁ hlocate₁ => ?_
      exact Run.ensures_pure ⟨hchanges₁, hextension, hlocate₁⟩
  | directory directory =>
    obtain ⟨hextension, rfl⟩ := hholds
    have hwrites := hpath hextension
    refine stepEnds_bind (stepEnds_create hchanges hwrites) fun handle s₁ hchanges₁ hlocate₁ => ?_
    refine stepEnds_bind (ensures_writeCollection hchanges₁ hwrites hlocate₁ name reference blocks)
      fun count s₂ hchanges₂ _ => ?_
    exact Run.ensures_pure ⟨hchanges₂, hextension, rfl⟩

/-- **A level is written where it may be**, if it is there. -/
theorem ensures_writeLevel {content : ByteArray}
    (hraster : GeoTiffRaster.readSource settings.input (.ofFile content) = .ok raster)
    {dataset : Dataset disk.store.Handle} (hholds : disk.HoldsDataset settings.output dataset s)
    (frame : RasterFrame) {level : Int}
    (hlevel : level ∈ settings.choice.levels raster.overviewCount) :
    Run.Ensures (Conversion.writeLevel (Access.builtIn disk.store) raster frame dataset level) s
      (disk.StepEnds settings raster s₀ fun written s' =>
        disk.HoldsDataset settings.output written.2 s') := by
  cases level with
  | negSucc n =>
    exact Run.ensures_of_exec (fun events => ⟨events, rfl⟩)
      ⟨hchanges, LevelChoice.ne_all_of_negSucc_mem hlevel⟩
  | ofNat index =>
    unfold Conversion.writeLevel
    have hfetch : Run.Ensures (Run.ofExcept id (raster.level index)) s
        (disk.StepEnds settings raster s₀ fun found s' =>
          raster.level index = .ok found ∧ s' = s) := by
      refine Run.ensures_ofExcept ⟨hchanges, ?_⟩
      cases hfound : raster.level index with
      | error cause => exact GeoTiffRaster.isOfWriting_of_level hraster hlevel hfound
      | ok found => exact ⟨rfl, rfl⟩
    refine stepEnds_bind hfetch ?_
    rintro found s' - ⟨hfound, rfl⟩
    have hname := GeoTiffRaster.index_of_level hfound
    refine stepEnds_bind (ensures_writeLayer hchanges hholds (fun hextension => ?_) _ _)
      fun written s₁ hchanges₁ hholds₁ => ?_
    · unfold Settings.WritesAt
      rw [if_neg hextension, hname]
      exact ⟨index, found, LevelChoice.includes_of_mem_levels hlevel, hfound, rfl⟩
    · exact Run.ensures_of_exec (fun events => ⟨_, rfl⟩) ⟨hchanges₁, hholds₁⟩

/-- **Levels are written where they may be**, up to the first one that is not. -/
theorem ensures_writeEach {content : ByteArray}
    (hraster : GeoTiffRaster.readSource settings.input (.ofFile content) = .ok raster)
    {dataset : Dataset disk.store.Handle} (hholds : disk.HoldsDataset settings.output dataset s)
    (frame : RasterFrame) {levels : List Int}
    (hlevels : ∀ level ∈ levels, level ∈ settings.choice.levels raster.overviewCount) :
    Run.Ensures (Conversion.writeEach (Access.builtIn disk.store) raster frame dataset levels) s
      (disk.StepEnds settings raster s₀ fun written s' =>
        disk.HoldsDataset settings.output written.2 s') := by
  induction levels generalizing dataset s with
  | nil => exact Run.ensures_pure ⟨hchanges, hholds⟩
  | cons level levels ih =>
    obtain ⟨hlevel, hrest⟩ := List.forall_mem_cons.mp hlevels
    change Run.Ensures (Conversion.writeLevel (Access.builtIn disk.store) raster frame dataset level
      >>= _) s _
    refine stepEnds_bind (ensures_writeLevel hchanges hraster hholds frame hlevel)
      fun written s₁ hchanges₁ hholds₁ => ?_
    refine stepEnds_bind (ih hchanges₁ hholds₁ hrest) fun others s₂ hchanges₂ hholds₂ => ?_
    exact Run.ensures_pure ⟨hchanges₂, hholds₂⟩

/-- The chosen levels are written where they may be. -/
theorem ensures_writeChosen {content : ByteArray}
    (hraster : GeoTiffRaster.readSource settings.input (.ofFile content) = .ok raster)
    {dataset : Dataset disk.store.Handle} (hholds : disk.HoldsDataset settings.output dataset s) :
    Run.Ensures (writeChosen (Access.builtIn disk.store) raster dataset settings.choice) s
      (disk.StepEnds settings raster s₀ fun written s' =>
        disk.HoldsDataset settings.output written.2 s') := by
  intro events
  obtain ⟨events₁, hchosen⟩ :=
    exec_writeChosen disk.store raster dataset settings.choice events s
  rw [hchosen]
  exact ensures_writeEach hchanges hraster hholds raster.frame (fun _ hlevel => hlevel) events₁

/-- **A dataset is made where it may be**: a file, or a directory with those above it. -/
theorem ensures_create :
    Run.Ensures (Dataset.create disk.store settings.output) s
      (disk.StepEnds settings raster s₀ fun dataset s' =>
        disk.HoldsDataset settings.output dataset s') := by
  unfold Dataset.create
  by_cases hextension : (Path.extension? settings.output).isSome = true
  · rw [if_pos hextension]
    have hwrites := Settings.writesAt_output raster hextension
    refine stepEnds_bind (stepEnds_create hchanges hwrites) fun handle s₁ hchanges₁ hlocate₁ => ?_
    exact Run.ensures_pure ⟨hchanges₁, hextension, hlocate₁⟩
  · rw [if_neg hextension]
    have hmake : disk.Confined (settings.WritesAt raster) settings.MakesAt
        (disk.store.makeDirectories settings.output) :=
      confined_makeDirectoriesFrom fun _ hmem => ⟨hextension, hmem⟩
    have hattempt : Run.Ensures (Run.attempt .file (disk.store.makeDirectories settings.output)) s
        (disk.StepEnds settings raster s₀ fun _ _ => True) :=
      stepEnds_attempt hchanges (fun _ => trivial) (hmake s) fun _ _ _ => trivial
    refine stepEnds_bind hattempt fun _ s₁ hchanges₁ _ => ?_
    exact Run.ensures_pure ⟨hchanges₁, hextension, rfl⟩

/-- A dataset is completed where it is. -/
theorem ensures_close {dataset : Dataset disk.store.Handle}
    (hholds : disk.HoldsDataset settings.output dataset s) :
    Run.Ensures (dataset.close disk.store) s
      (disk.StepEnds settings raster s₀ fun _ _ => True) := by
  obtain ⟨target, layers⟩ := dataset
  unfold Dataset.close
  cases target with
  | file path handle =>
    obtain ⟨hextension, hlocate⟩ := hholds
    have hwrites := Settings.writesAt_output raster hextension
    dsimp only
    split
    · refine stepEnds_bind (stepEnds_append hchanges hwrites hlocate _)
        fun _ s₁ hchanges₁ _ => ?_
      exact stepEnds_sync hchanges₁ path handle
    · exact stepEnds_sync hchanges path handle
  | directory directory => exact Run.ensures_pure ⟨hchanges, trivial⟩

end Steps

/-! ### Conversions -/

/-- How a conversion ends. -/
inductive ConversionEnds (disk : Disk σ) (settings : Settings) (s₀ : σ)
    (result : Except Failure Written) (s : σ) : Prop where
  /-- There is no driver or no raster, and nothing has been touched. -/
  | refused (cause : Failure) (hresult : result = .error cause) (hcause : cause.IsOfOpening)
      (hfiles : disk.files s = disk.files s₀)
  /-- The raster has been opened, and the steps of writing have been taken up to a failure. -/
  | writing (raster : GeoTiffRaster) (hraster : disk.opened settings.input s₀ = .ok raster)
      (hends : disk.StepEnds settings raster s₀ (fun _ _ => True) result s)

/-- **A conversion touches nothing before its dataset is made**, and only the files of its output
and the directories for them afterwards, whichever call of the disk fails. -/
theorem ensures_convert (disk : Disk σ) (settings : Settings) (s₀ : σ) :
    Run.Ensures (convert (Access.builtIn disk.store) settings) s₀
      (disk.ConversionEnds settings s₀) := by
  unfold convert
  -- the driver
  have hsettle : Run.Ensures (driverOf settings) s₀
      fun result s => result = settledDriver settings ∧ s = s₀ :=
    Run.ensures_of_exec (fun events => exec_driverOf settings events s₀) ⟨rfl, rfl⟩
  refine hsettle.bind ?_ ?_
  swap
  · rintro cause s ⟨hsettled, rfl⟩
    exact .refused cause rfl (isOfOpening_of_settledDriver hsettled.symm) rfl
  rintro driver s ⟨-, rfl⟩
  -- the raster
  refine Run.Ensures.bind (disk.ensures_openGeoTiff settings.input s) ?_ ?_
  swap
  · rintro cause s₁ ⟨hopened, hfiles⟩
    exact .refused cause rfl (isOfOpening_of_opened hopened.symm) hfiles
  rintro raster s₁ ⟨hopened, hfiles⟩
  obtain ⟨content, -, hraster⟩ := opened_eq_ok hopened.symm
  have hchanges : ChangesOnly (settings.WritesAt raster) settings.MakesAt (disk.files s)
      (disk.files s₁) := by
    rw [hfiles]
    exact .refl _ _ _
  -- the dataset
  change Run.Ensures (Access.makeGeoJson disk.store driver settings.output >>= _) _ _
  unfold Access.makeGeoJson
  by_cases hdriver : Access.isGeoJson driver = true
  swap
  · rw [if_neg hdriver]
    exact Run.ensures_of_exec (fun events => ⟨events, rfl⟩)
      (.refused (.driverNotBuiltIn driver) rfl trivial hfiles)
  rw [if_pos hdriver]
  refine Run.Ensures.mono (stepEnds_bind (ensures_create hchanges) ?_) fun result s' hends =>
    .writing raster hopened.symm hends
  intro dataset s₂ hchanges₂ hholds₂
  have hreport : Run.Ensures (reportOpen settings driver) s₂
      (disk.StepEnds settings raster s fun _ s' => s' = s₂) :=
    Run.ensures_record _ ⟨hchanges₂, rfl⟩
  refine stepEnds_bind hreport ?_
  rintro ⟨⟩ s' - rfl
  -- the levels, and the end of the dataset
  refine stepEnds_bind (ensures_writeChosen hchanges₂ hraster hholds₂)
    fun written s₃ hchanges₃ hholds₃ => ?_
  refine stepEnds_bind (ensures_close hchanges₃ hholds₃) fun _ s₄ hchanges₄ _ => ?_
  exact Run.ensures_pure ⟨hchanges₄, trivial⟩

end Disk

end BlockExtent
