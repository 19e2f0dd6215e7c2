import BlockExtent.Proofs.Conversion.Levels

/-!
# Conversions into a directory

What a conversion writes into a directory is settled by its raster and by the directories
that there are.  Whether a level can be written, what is written for it and where do not
depend on the other levels, nor on the files that are there.

## Main definitions

* `LevelWrite`, `levelFiles` — what is written for a level, and the files of several.
* `GeoTiffRaster.levelWrite?` — what is written for a level, if it can be written.

## Main results

* `writeEach_gives`, `exists_levelWrite?_of_writeEach` — levels are written if and only if
  each of them can be.
* `convert_gives` — a conversion into a directory.
* `convert_directory_eq_ok` — what a conversion into a directory that succeeds has found,
  and what it leaves.
-/

namespace BlockExtent

open GeoJson

/-- What is written for a level: its layer, and its file. -/
structure LevelWrite where
  /-- The layer. -/
  layer : WrittenLayer
  /-- Where its file is. -/
  location : Location
  /-- What its file holds. -/
  content : ByteArray

instance : Nonempty LevelWrite := ⟨⟨⟨"", 0, ⟨0, 0⟩, ⟨0, 0⟩, 0⟩, [], .empty⟩⟩

/-- The file of a level, as it is put at its place. -/
def LevelWrite.file (write : LevelWrite) : Location × ByteArray := (write.location, write.content)

/-- The files of levels. -/
def levelFiles (write : ℕ → LevelWrite) (indices : List ℕ) : List (Location × ByteArray) :=
  indices.map fun index => (write index).file

/-- The layer of a level. -/
def RasterFrame.writtenLayer (frame : RasterFrame) (index : ℕ) (level : PyramidLevel) :
    WrittenLayer where
  name := layerName index
  level := index
  size := level.size
  blockSize := level.blockSize
  features := (frame.blocks level).toList.length

/-- What is written for a level in a directory, if there is such a level and a place for its
file. -/
def GeoTiffRaster.levelWrite? (raster : GeoTiffRaster) (fs : FileSystem) (output : String)
    (index : ℕ) : Option LevelWrite :=
  match raster.level index, fs.place? (Dataset.layerPath output (layerName index)) with
  | .ok level, some location =>
    some { layer := raster.frame.writtenLayer index level
           location
           content := raster.frame.levelBytes index level }
  | _, _ => none

variable {raster : GeoTiffRaster} {fs fs' fs₁ : FileSystem} {output : String} {index : ℕ}
  {write : LevelWrite} {events events' : List Event}

theorem levelWrite?_eq_some_iff :
    raster.levelWrite? fs output index = some write ↔
      ∃ level, raster.level index = .ok level
        ∧ fs.place? (Dataset.layerPath output (layerName index)) = some write.location
        ∧ write.layer = raster.frame.writtenLayer index level
        ∧ write.content = raster.frame.levelBytes index level := by
  unfold GeoTiffRaster.levelWrite?
  constructor
  · intro h
    split at h
    · rename_i level location hlevel hplace
      cases h
      refine ⟨level, hlevel, hplace, ?_, ?_⟩ <;> dsimp only
    · cases h
  · rintro ⟨level, hlevel, hplace, hlayer, hcontent⟩
    rw [hlevel, hplace]
    dsimp only
    rw [← hlayer, ← hcontent]

/-- What is written for a level depends on the directories alone. -/
theorem levelWrite?_of_sameDirectories (hsame : fs₁.SameDirectories fs) (output : String)
    (index : ℕ) : raster.levelWrite? fs output index = raster.levelWrite? fs₁ output index := by
  unfold GeoTiffRaster.levelWrite?
  rw [hsame.place?_eq]

/-- A level whose file has a place can be written. -/
theorem exists_levelWrite? {level : PyramidLevel} {location : Location}
    (hlevel : raster.level index = .ok level)
    (hplace : fs.place? (Dataset.layerPath output (layerName index)) = some location) :
    ∃ write, raster.levelWrite? fs output index = some write := by
  unfold GeoTiffRaster.levelWrite?
  rw [hlevel, hplace]
  exact ⟨_, rfl⟩

/-- The file of a level makes no difference to directories. -/
theorem sameDirectories_levelWrite (h : raster.levelWrite? fs output index = some write) :
    fs.SameDirectories (fs.putFiles [write.file]) := by
  obtain ⟨_, -, hplace, -, -⟩ := levelWrite?_eq_some_iff.mp h
  obtain ⟨hne, hlookup, -, -⟩ := FileSystem.place?_spec hplace
  exact .insert_file write.content hne hlookup

/-- The file of a level is named after it. -/
theorem getLast?_location (h : raster.levelWrite? fs output index = some write) :
    write.location.getLast? = some (layerFileName index) := by
  obtain ⟨_, -, hplace, -, -⟩ := levelWrite?_eq_some_iff.mp h
  rw [(FileSystem.place?_spec hplace).2.2.1, lastName_layerPath]

section LevelFiles

variable {indices : List ℕ} {write : ℕ → LevelWrite}
  (h : ∀ index ∈ indices, raster.levelWrite? fs output index = some (write index))

include h

/-- The files of levels go to places that take them. -/
theorem takesFiles_levelFiles : fs.TakesFiles (levelFiles write indices) := by
  intro file hfile
  obtain ⟨index, hindex, rfl⟩ := List.mem_map.mp hfile
  obtain ⟨_, -, hplace, -, -⟩ := levelWrite?_eq_some_iff.mp (h index hindex)
  obtain ⟨hne, hlookup, -, -⟩ := FileSystem.place?_spec hplace
  exact ⟨hne, hlookup⟩

/-- **The files of different levels go to different places.** -/
theorem eq_of_location_eq {other : ℕ} (hindex : index ∈ indices) (hother : other ∈ indices)
    (hsame : (write index).location = (write other).location) : index = other := by
  have hlast := getLast?_location (h other hother)
  rw [← hsame, getLast?_location (h index hindex)] at hlast
  exact layerFileName_injective (Option.some.inj hlast)

theorem nodup_levelFiles (hnodup : indices.Nodup) :
    ((levelFiles write indices).map Prod.fst).Nodup := by
  unfold levelFiles
  rw [List.map_map]
  exact List.Nodup.map_on
    (fun _ hindex _ hother hsame => eq_of_location_eq h hindex hother hsame) hnodup

/-- The path of the file of a level leads to it once it has been put there. -/
theorem isFileAt_levelFiles (hindex : index ∈ indices) :
    (fs.putFiles (levelFiles write indices)).IsFileAt
      (Dataset.layerPath output (layerName index)) (write index).location := by
  obtain ⟨_, -, hplace, -, -⟩ := levelWrite?_eq_some_iff.mp (h index hindex)
  exact FileSystem.isFileAt_putFiles (takesFiles_levelFiles h) hplace
    (List.mem_map_of_mem (List.mem_map_of_mem hindex))

/-- The file of a level is found at its path. -/
theorem find_levelFiles (hnodup : indices.Nodup) (hindex : index ∈ indices) :
    (fs.putFiles (levelFiles write indices)).find (Dataset.layerPath output (layerName index))
      = .ok (.file (write index).content) := by
  refine (isFileAt_levelFiles h hindex).find ?_
  exact FileSystem.lookup_putFiles_of_mem (fun file hfile => (takesFiles_levelFiles h file hfile).1)
    (nodup_levelFiles h hnodup) (List.mem_map_of_mem hindex)

end LevelFiles

/-! ### Levels -/

/-- A level that can be written is put at its place. -/
theorem writeLevel_gives (h : raster.levelWrite? fs output index = some write) (layers : ℕ) :
    Run.Gives (Conversion.writeLevel (Access.builtIn FileSystem.store) raster raster.frame
      ({ target := .directory output, layers } : Dataset Location) (Int.ofNat index)) fs
      (write.layer, { target := .directory output, layers := layers + 1 })
      (fs.putFiles [write.file]) := by
  obtain ⟨level, hlevel, hplace, hlayer, hcontent⟩ := levelWrite?_eq_some_iff.mp h
  have hindex := GeoTiffRaster.index_of_level hlevel
  have hadd : Run.Gives ((Access.builtIn FileSystem.store).addLayer
      ({ target := .directory output, layers } : Dataset Location) (layerName level.index)
      raster.frame.spatialReference (raster.frame.blocks level)) fs
      ((raster.frame.blocks level).toList.length,
        { target := .directory output, layers := layers + 1 })
      (fs.putFiles [write.file]) := by
    intro events
    rw [hindex, FileSystem.putFiles_cons, FileSystem.putFiles_nil]
    unfold LevelWrite.file
    dsimp only
    rw [hcontent]
    exact ⟨events, Dataset.exec_writeLayer_of_place? hplace layers _ _ events⟩
  unfold Conversion.writeLevel
  refine (Run.gives_ofExcept hlevel id fs).bind (hadd.bind ?_)
  refine (Run.gives_record _ _).bind ?_
  rw [hlayer]
  dsimp only
  rw [hindex]
  exact Run.gives_pure _ _

/-- A level that has been written is one that can be. -/
theorem exists_levelWrite?_of_writeLevel {level : Int} {layers : ℕ} {layer : WrittenLayer}
    {dataset' : Dataset Location}
    (h : (Conversion.writeLevel (Access.builtIn FileSystem.store) raster raster.frame
      ({ target := .directory output, layers } : Dataset Location) level).exec events fs
      = ((.ok (layer, dataset'), events'), fs')) :
    ∃ index write, level = Int.ofNat index ∧ raster.levelWrite? fs output index = some write := by
  obtain ⟨index, found, count, _, _, rfl, hlevel, hwrite⟩ := writeLevel_eq_ok h
  rw [GeoTiffRaster.index_of_level hlevel] at hwrite
  obtain ⟨-, location, hplace, -⟩ := Dataset.writeLayer_directory_eq_ok hwrite
  obtain ⟨write, hsome⟩ := exists_levelWrite? hlevel hplace
  exact ⟨index, write, rfl, hsome⟩

/-- Levels are written one after the other. -/
theorem writeEach_cons_gives {σ : Type} {access : Access (StateM σ)} {raster : access.Raster}
    {frame : RasterFrame} {dataset dataset₁ dataset' : access.Dataset} {level : Int}
    {levels : List Int} {layer : WrittenLayer} {layers : List WrittenLayer} {s s₁ s' : σ}
    (hlevel : Run.Gives (Conversion.writeLevel access raster frame dataset level) s
      (layer, dataset₁) s₁)
    (hlevels : Run.Gives (Conversion.writeEach access raster frame dataset₁ levels) s₁
      (layers, dataset') s') :
    Run.Gives (Conversion.writeEach access raster frame dataset (level :: levels)) s
      (layer :: layers, dataset') s' := by
  unfold Conversion.writeEach
  exact hlevel.bind (hlevels.bind (Run.gives_pure _ _))

/-- **Levels that can be written are put at their places**, whatever has been written
before them. -/
theorem writeEach_gives {indices : List ℕ} {write : ℕ → LevelWrite}
    (h : ∀ index ∈ indices, raster.levelWrite? fs output index = some (write index))
    (layers : ℕ) :
    Run.Gives (Conversion.writeEach (Access.builtIn FileSystem.store) raster raster.frame
      ({ target := .directory output, layers } : Dataset Location) (indices.map Int.ofNat)) fs
      (indices.map fun index => (write index).layer,
        { target := .directory output, layers := layers + indices.length })
      (fs.putFiles (levelFiles write indices)) := by
  induction indices generalizing fs layers with
  | nil => exact Run.gives_pure _ _
  | cons index indices ih =>
    obtain ⟨hfirst, hothers⟩ := List.forall_mem_cons.mp h
    -- the first file makes no difference to where the others go
    have hsame := sameDirectories_levelWrite hfirst
    have hrest := ih (fun other hother =>
      (levelWrite?_of_sameDirectories hsame output other).trans (hothers other hother)) (layers + 1)
    rw [← FileSystem.putFiles_append, Nat.add_assoc, Nat.add_comm 1] at hrest
    exact writeEach_cons_gives (writeLevel_gives hfirst layers) hrest

/-- Levels that have been written are levels that can be. -/
theorem exists_levelWrite?_of_writeEach {levels : List Int} {layers : ℕ}
    {written : List WrittenLayer} {dataset' : Dataset Location}
    (h : (Conversion.writeEach (Access.builtIn FileSystem.store) raster raster.frame
      ({ target := .directory output, layers } : Dataset Location) levels).exec events fs
      = ((.ok (written, dataset'), events'), fs')) :
    ∃ indices : List ℕ, levels = indices.map Int.ofNat
      ∧ ∀ index ∈ indices, ∃ write, raster.levelWrite? fs output index = some write := by
  induction levels generalizing fs layers events written with
  | nil => exact ⟨[], rfl, by rintro _ ⟨⟩⟩
  | cons level levels ih =>
    obtain ⟨layer, dataset₁, events₁, fs₁, others, hlevel, hlevels⟩ := writeEach_cons_eq_ok h
    obtain ⟨index, write, rfl, hwrite⟩ := exists_levelWrite?_of_writeLevel hlevel
    obtain ⟨hgives, rfl⟩ := (writeLevel_gives hwrite layers).eq_of_exec hlevel
    cases hgives
    obtain ⟨indices, rfl, hothers⟩ := ih hlevels
    have hsame := sameDirectories_levelWrite hwrite
    have hbefore : ∀ other ∈ indices, ∃ write, raster.levelWrite? fs output other = some write := by
      intro other hother
      rw [← levelWrite?_of_sameDirectories hsame]
      exact hothers other hother
    exact ⟨index :: indices, rfl, List.forall_mem_cons.mpr ⟨⟨write, hwrite⟩, hbefore⟩⟩

/-! ### Conversions -/

/-- A raster is opened. -/
theorem openGeoTiff_gives {path : String} {content : ByteArray}
    (hfind : fs.find path = .ok (.file content))
    (hraster : GeoTiffRaster.readSource path (.ofFile content) = .ok raster) :
    Run.Gives (Access.openGeoTiff FileSystem.store path) fs raster fs := by
  have hread : FileSystem.store.read path fs = (.ok (.bytes content), fs) := by
    rw [FileSystem.store_read, hfind]
  unfold Access.openGeoTiff
  refine (Run.gives_attempt hread _).bind fun events => ?_
  obtain ⟨events', hexec⟩ := GeoTiffRaster.exec_read events fs path (.ofFile content)
  rw [← GeoTiffRaster.readSource_eq, hraster] at hexec
  exact ⟨events', hexec⟩

/-- A dataset is made at a path without an extension. -/
theorem create_directory_gives {path : String}
    (hextension : ¬ (Path.extension? path).isSome = true)
    (hmake : FileSystem.store.makeDirectories path fs = (.ok (), fs₁)) :
    Run.Gives (Dataset.create FileSystem.store path) fs
      { target := .directory path, layers := 0 } fs₁ := by
  unfold Dataset.create
  rw [if_neg hextension]
  exact (Run.gives_attempt hmake _).bind (Run.gives_pure _ _)

theorem driverOf_gives {settings : Settings} {driver : String}
    (h : settledDriver settings = .ok driver) (fs : FileSystem) :
    Run.Gives (driverOf settings) fs driver fs := by
  intro events
  obtain ⟨events', hexec⟩ := exec_driverOf settings events fs
  rw [h] at hexec
  exact ⟨events', hexec⟩

/-- The chosen levels are those that get written. -/
theorem writeChosen_gives {dataset dataset' : Dataset Location} {choice : LevelChoice}
    {layers : List WrittenLayer}
    (h : Run.Gives (Conversion.writeEach (Access.builtIn FileSystem.store) raster raster.frame
      dataset (choice.levels raster.overviewCount)) fs (layers, dataset') fs') :
    Run.Gives (writeChosen (Access.builtIn FileSystem.store) raster dataset choice) fs
      (layers, dataset') fs' := by
  have hlevels : Run.Gives (chosenLevels (Access.builtIn FileSystem.store) raster choice) fs
      (choice.levels raster.overviewCount) fs := by
    cases choice <;> exact Run.gives_pure _ _
  unfold writeChosen
  refine hlevels.bind ((Run.gives_pure _ _).bind ((Run.gives_pure _ _).bind ?_))
  refine Run.Gives.bind (fun events => exec_warnOfRotation _ _ events fs) ?_
  exact (Run.gives_pure _ _).bind h

/-- A conversion finds what it takes to write into a directory: a driver, a raster, and a
directory, which is made where it is missing. -/
structure OpensDirectory (settings : Settings) (driver : String) (raster : GeoTiffRaster)
    (fs fs₁ : FileSystem) : Prop where
  extension : ¬ (Path.extension? settings.output).isSome = true
  settled : settledDriver settings = .ok driver
  isGeoJson : Access.isGeoJson driver = true
  input : ∃ content, fs.find settings.input = .ok (.file content)
    ∧ GeoTiffRaster.readSource settings.input (.ofFile content) = .ok raster
  directory : FileSystem.store.makeDirectories settings.output fs = (.ok (), fs₁)

/-- **A conversion into a directory** writes the chosen levels, if each of them can be
written. -/
theorem convert_gives {settings : Settings} {driver : String} {indices : List ℕ}
    {write : ℕ → LevelWrite} (hopens : OpensDirectory settings driver raster fs fs₁)
    (hlevels : settings.choice.levels raster.overviewCount = indices.map Int.ofNat)
    (hwrites : ∀ index ∈ indices,
      raster.levelWrite? fs₁ settings.output index = some (write index)) :
    Run.Gives (convert (Access.builtIn FileSystem.store) settings) fs
      { driver, layers := indices.map fun index => (write index).layer }
      (fs₁.putFiles (levelFiles write indices)) := by
  obtain ⟨content, hfind, hraster⟩ := hopens.input
  have hmake : Run.Gives (Access.makeGeoJson FileSystem.store driver settings.output) fs
      { target := .directory settings.output, layers := 0 } fs₁ := by
    unfold Access.makeGeoJson
    rw [if_pos hopens.isGeoJson]
    exact create_directory_gives hopens.extension hopens.directory
  have heach := writeEach_gives hwrites 0
  rw [← hlevels] at heach
  have hclose : Run.Gives (Dataset.close FileSystem.store
      { target := .directory settings.output, layers := 0 + indices.length })
      (fs₁.putFiles (levelFiles write indices)) () (fs₁.putFiles (levelFiles write indices)) :=
    fun events => ⟨events, Dataset.close_eq _ events _ (.inr ⟨_, rfl⟩)⟩
  unfold convert
  refine (driverOf_gives hopens.settled fs).bind ?_
  refine (openGeoTiff_gives hfind hraster).bind (hmake.bind ?_)
  refine (Run.gives_record _ _).bind ((writeChosen_gives heach).bind ?_)
  exact hclose.bind (Run.gives_pure _ _)

/-- **What a conversion into a directory that succeeds has found**, and what it leaves. -/
theorem convert_directory_eq_ok {settings : Settings} {written : Written}
    (hextension : ¬ (Path.extension? settings.output).isSome = true)
    (h : (convert (Access.builtIn FileSystem.store) settings).exec events fs
      = ((.ok written, events'), fs')) :
    ∃ raster fs₁, ∃ indices : List ℕ, ∃ write, OpensDirectory settings written.driver raster fs fs₁
      ∧ settings.choice.levels raster.overviewCount = indices.map Int.ofNat
      ∧ (∀ index ∈ indices, raster.levelWrite? fs₁ settings.output index = some (write index))
      ∧ written.layers = indices.map (fun index => (write index).layer)
      ∧ fs' = fs₁.putFiles (levelFiles write indices) := by
  obtain ⟨raster, dataset, dataset', layers, _, fs₁, _, _, _, _, ⟨hsettled, hgeoJson, -⟩, hinput,
    hcreate, heach, -⟩ := convert_eq_ok h
  obtain ⟨rfl, hmake⟩ := Dataset.create_directory_eq_ok hextension hcreate
  have hopens : OpensDirectory settings written.driver raster fs fs₁ :=
    ⟨hextension, hsettled, hgeoJson, hinput, hmake⟩
  obtain ⟨indices, hlevels, hexists⟩ := exists_levelWrite?_of_writeEach heach
  choose! write hwrites using hexists
  obtain ⟨hwritten, hleft⟩ := (convert_gives hopens hlevels hwrites).eq_of_exec h
  exact ⟨raster, fs₁, indices, write, hopens, hlevels, hwrites, congrArg Written.layers hwritten,
    hleft⟩

end BlockExtent
