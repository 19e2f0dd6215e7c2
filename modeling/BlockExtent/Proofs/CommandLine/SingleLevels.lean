import BlockExtent.Proofs.CommandLine.Arguments
import BlockExtent.Proofs.CommandLine.Documents
import BlockExtent.Proofs.Conversion.Directory

/-!
# Levels one by one

Into a directory, all levels may be written by one conversion, or each by a conversion of
its own.  The conversions for single levels may come in any order: what one of them writes
is in the way of no other one, and each of them finds the raster as it was.

## Main definitions

* `Settings.LeavesInput` — the raster is none of the files of a list.

## Main results

* `OpensDirectory.again` — a conversion finds what it takes after another one.
* `outcomes_levels` — runs for single levels, one after the other.
* `convert_levels_one_by_one` — **conversions for single levels leave what a conversion for
  all levels leaves**, in any order.
-/

namespace BlockExtent

open GeoJson

variable {fs fs' fs₁ : FileSystem} {settings : Settings} {driver : String}
  {raster : GeoTiffRaster}

/-! ### Conversions for single levels -/

/-- The raster is none of the files. -/
def Settings.LeavesInput (settings : Settings) (fs : FileSystem)
    (files : List (Location × ByteArray)) : Prop :=
  ∀ location, fs.IsFileAt settings.input location → location ∉ files.map Prod.fst

/-- Files that are put next to the raster make no difference to it. -/
theorem find_input_putFiles {files : List (Location × ByteArray)} {content : ByteArray}
    (hgrows : fs.AddsDirectories fs₁) (htakes : fs₁.TakesFiles files)
    (hleaves : settings.LeavesInput fs files)
    (hfind : fs.find settings.input = .ok (.file content)) :
    (fs₁.putFiles files).find settings.input = .ok (.file content) := by
  obtain ⟨location, hfile, hlookup⟩ := FileSystem.IsFileAt.of_find hfind
  have hthere := (hfile.mono hgrows.grows).mono (FileSystem.sameDirectories_putFiles htakes).2
  refine hthere.find ?_
  rw [FileSystem.lookup_putFiles_of_notMem (fun file hmem => (htakes file hmem).1)
    (hleaves location hfile)]
  exact hgrows.lookup_of_some hlookup

/-- **A conversion finds what it takes after another one** that has left the raster alone. -/
theorem OpensDirectory.again {files : List (Location × ByteArray)}
    (h : OpensDirectory settings driver raster fs fs₁) (htakes : fs₁.TakesFiles files)
    (hleaves : settings.LeavesInput fs files) :
    OpensDirectory settings driver raster (fs₁.putFiles files) (fs₁.putFiles files) := by
  obtain ⟨content, hfind, hraster⟩ := h.input
  obtain ⟨hadds, hdirectory⟩ := FileSystem.makeDirectories_spec h.directory
  have hgrows := (FileSystem.sameDirectories_putFiles htakes).2
  exact ⟨h.extension, h.settled, h.isGeoJson,
    ⟨content, find_input_putFiles hadds htakes hleaves hfind, hraster⟩,
    FileSystem.makeDirectories_of_leadsToDirectory ((hdirectory rfl).mono hgrows)⟩

/-- There is one raster that a conversion can find. -/
theorem OpensDirectory.raster_eq {content : ByteArray} {raster' : GeoTiffRaster}
    (h : OpensDirectory settings driver raster fs fs₁)
    (hfind : fs.find settings.input = .ok (.file content))
    (hraster : GeoTiffRaster.readSource settings.input (.ofFile content) = .ok raster') :
    raster' = raster := by
  obtain ⟨content', hfind', hraster''⟩ := h.input
  rw [hfind] at hfind'
  cases hfind'
  rw [hraster] at hraster''
  exact Except.ok.inj hraster''

/-- A path that does not lead to the raster in the end is that of another file. -/
theorem ne_location_of_locate_ne {files : List (Location × ByteArray)} {path : String}
    {location found : Location} (hadds : fs.AddsDirectories fs₁) (htakes : fs₁.TakesFiles files)
    (hput : (fs₁.putFiles files).IsFileAt path location)
    (hne : (fs₁.putFiles files).locate settings.input ≠ (fs₁.putFiles files).locate path)
    (hfile : fs.IsFileAt settings.input found) : found ≠ location := by
  rintro rfl
  have hthere := (hfile.mono hadds.grows).mono (FileSystem.sameDirectories_putFiles htakes).2
  exact hne (hthere.locate_eq.trans hput.locate_eq.symm)

/-- A conversion for a single level. -/
theorem convert_atLevel_gives {index : ℕ} {write : LevelWrite}
    (hopens : OpensDirectory settings driver raster fs fs₁)
    (hwrite : raster.levelWrite? fs₁ settings.output index = some write) :
    Run.Gives (convert (Access.builtIn FileSystem.store) (settings.atLevel index)) fs
      { driver, layers := [write.layer] } (fs₁.putFiles [write.file]) := by
  have hopens' : OpensDirectory (settings.atLevel index) driver raster fs fs₁ :=
    ⟨hopens.extension, hopens.settled, hopens.isGeoJson, hopens.input, hopens.directory⟩
  have hlevels : (settings.atLevel index).choice.levels raster.overviewCount
      = [index].map Int.ofNat := rfl
  have hwrites : ∀ other ∈ [index],
      raster.levelWrite? fs₁ (settings.atLevel index).output other = some write := by
    intro other hother
    rw [List.mem_singleton.mp hother]
    exact hwrite
  exact convert_gives hopens' hlevels hwrites

/-- A command line whose conversion succeeds. -/
theorem runCommandLine_gives {arguments : List String} {written : Written}
    (hparse : Request.parse arguments = .ok (.convert settings))
    (h : Run.Gives (convert (Access.builtIn FileSystem.store) settings) fs written fs') :
    Run.Gives (runCommandLine (Access.builtIn FileSystem.store) arguments) fs
      { status := successStatus, output := "" } fs' := by
  unfold runCommandLine
  refine (Run.gives_ofExcept hparse id fs).bind (h.bind ?_)
  exact (Run.gives_record _ _).bind (Run.gives_pure _ _)

/-! ### One after the other -/

section OneByOne

variable {α : Type} {run : ℕ → Run (StateM FileSystem) α} {result : ℕ → α}
  {write : ℕ → LevelWrite} {count : ℕ}

/-- Runs for single levels, each of which puts the file of its level, put the files of their
levels one after the other. -/
theorem outcomes_levels (hopens : OpensDirectory settings driver raster fs fs₁)
    (hwrites : ∀ index ≤ count,
      raster.levelWrite? fs₁ settings.output index = some (write index))
    (hinput : ∀ index ≤ count, ∀ location, fs.IsFileAt settings.input location →
      location ≠ (write index).location)
    (hrun : ∀ index ≤ count, ∀ g g₁, OpensDirectory settings driver raster g g₁ →
      raster.levelWrite? g₁ settings.output index = some (write index) →
      Run.Gives (run index) g (result index) (g₁.putFiles [(write index).file]))
    {order : List ℕ} (hne : order ≠ []) (horder : ∀ index ∈ order, index ≤ count) :
    Run.outcomes (order.map run) fs
      = (order.map fun index => .ok (result index), fs₁.putFiles (levelFiles write order)) := by
  -- once there is a directory, each run starts where the one before it ends
  have hlater : ∀ order done : List ℕ, (∀ index ∈ order, index ≤ count) →
      (∀ index ∈ done, index ≤ count) →
      Run.outcomes (order.map run) (fs₁.putFiles (levelFiles write done))
        = (order.map fun index => .ok (result index),
          fs₁.putFiles (levelFiles write (done ++ order))) := by
    intro order
    induction order with
    | nil =>
      intro done _ _
      rw [List.append_nil]
      rfl
    | cons index order ih =>
      intro done horder hdone
      obtain ⟨hindex, horder⟩ := List.forall_mem_cons.mp horder
      have htakes : fs₁.TakesFiles (levelFiles write done) :=
        takesFiles_levelFiles fun other hother => hwrites other (hdone other hother)
      have hleaves : settings.LeavesInput fs (levelFiles write done) := by
        intro location hfile hmem
        obtain ⟨file, hlevel, rfl⟩ := List.mem_map.mp hmem
        obtain ⟨other, hother, rfl⟩ := List.mem_map.mp hlevel
        exact hinput other (hdone other hother) _ hfile rfl
      have hsame := (FileSystem.sameDirectories_putFiles htakes).1
      have hfirst := hrun index hindex _ _ (hopens.again htakes hleaves)
        ((levelWrite?_of_sameDirectories hsame _ _).trans (hwrites index hindex))
      have hrest := ih (done ++ [index]) horder
        (List.forall_mem_append.mpr ⟨hdone, by simpa using hindex⟩)
      rw [← FileSystem.putFiles_append] at hfirst
      rw [List.append_assoc, List.singleton_append] at hrest
      unfold levelFiles at hrest hfirst ⊢
      rw [List.map_append, List.map_singleton] at hrest
      exact Run.outcomes_cons hfirst hrest
  obtain ⟨index, order, rfl⟩ := List.exists_cons_of_ne_nil hne
  obtain ⟨hindex, horder⟩ := List.forall_mem_cons.mp horder
  exact Run.outcomes_cons (hrun index hindex _ _ hopens (hwrites index hindex))
    (hlater order [index] horder (by simpa using hindex))

end OneByOne

/-- **Conversions for single levels leave what a conversion for all levels leaves**, in any
order, if the raster is not among the files.  Each of them gives the layer of its level. -/
theorem convert_levels_one_by_one {arguments : List String} {written : Written}
    {events : List Event} {content : ByteArray}
    (hparse : Request.parse arguments = .ok (.convert settings)) (hall : settings.choice = .all)
    (hextension : ¬ (Path.extension? settings.output).isSome = true)
    (hfind : fs.find settings.input = .ok (.file content))
    (hraster : GeoTiffRaster.readSource settings.input (.ofFile content) = .ok raster)
    (hcount : raster.overviewCount < 2 ^ 31)
    (hconvert : (convert (Access.builtIn FileSystem.store) settings).outcome fs
      = ((.ok written, events), fs'))
    (hinput : ∀ index ≤ raster.overviewCount, fs'.locate settings.input
      ≠ fs'.locate (Path.join settings.output (layerName index ++ ".geojson"))) :
    ∃ layer : ℕ → WrittenLayer,
      written.layers = (List.range (raster.overviewCount + 1)).map layer
      ∧ (∀ index ≤ raster.overviewCount, Request.parse (levelArguments index arguments)
        = .ok (.convert (settings.atLevel index)))
      ∧ ∀ order : List ℕ, order.Perm (List.range (raster.overviewCount + 1)) →
        ∃ g, fs'.Same g
          ∧ Run.outcomes (order.map fun index =>
              convert (Access.builtIn FileSystem.store) (settings.atLevel index)) fs
            = (order.map fun index =>
                .ok { driver := written.driver, layers := [layer index] }, g)
          ∧ Run.outcomes (order.map fun index =>
              runCommandLine (Access.builtIn FileSystem.store) (levelArguments index arguments)) fs
            = (order.map fun _ => .ok { status := 0, output := "" }, g) := by
  rw [Run.outcome_eq_exec] at hconvert
  obtain ⟨raster', fs₁, indices, write, hopens, hlevels, hwrites, hlayers, rfl⟩ :=
    convert_directory_eq_ok hextension hconvert
  obtain rfl := hopens.raster_eq hfind hraster
  have hselects := LevelChoice.selects_of_levels (by omega) hlevels
  rw [hall] at hselects
  obtain rfl := hselects
  have htakes := takesFiles_levelFiles hwrites
  have hadds := (FileSystem.makeDirectories_spec hopens.directory).1
  have hmem : ∀ index ≤ raster.overviewCount, index ∈ List.range (raster.overviewCount + 1) :=
    fun index hindex => List.mem_range.mpr (Nat.lt_succ_of_le hindex)
  have hwrite := fun index hindex => hwrites index (hmem index hindex)
  have hapart : ∀ index ≤ raster.overviewCount, ∀ location,
      fs.IsFileAt settings.input location → location ≠ (write index).location :=
    fun index hindex _ hfile => ne_location_of_locate_ne hadds htakes
      (isFileAt_levelFiles hwrites (hmem index hindex)) (hinput index hindex) hfile
  have hparses : ∀ index ≤ raster.overviewCount, Request.parse (levelArguments index arguments)
      = .ok (.convert (settings.atLevel index)) := fun index hindex =>
    Request.parse_levelArguments hparse hall (Nat.lt_of_le_of_lt hindex hcount)
  refine ⟨fun index => (write index).layer, hlayers, hparses, ?_⟩
  intro order hperm
  have hne : order ≠ [] := by
    rintro rfl
    exact absurd hperm.length_eq (by simp)
  have horder : ∀ index ∈ order, index ≤ raster.overviewCount := fun index hindex =>
    Nat.le_of_lt_succ (List.mem_range.mp (hperm.mem_iff.mp hindex))
  refine ⟨fs₁.putFiles (levelFiles write order), ?_, ?_, ?_⟩
  · exact FileSystem.same_putFiles_of_perm (fun file hmem => (htakes file hmem).1)
      (nodup_levelFiles hwrites List.nodup_range) (hperm.map _)
  · exact outcomes_levels hopens hwrite hapart
      (fun index _ g g₁ hopens' hwrite' => convert_atLevel_gives hopens' hwrite') hne horder
  · exact outcomes_levels hopens hwrite hapart (fun index hindex g g₁ hopens' hwrite' =>
      runCommandLine_gives (hparses index hindex) (convert_atLevel_gives hopens' hwrite'))
      hne horder

/-! ### Two levels -/

/-- The arguments for all levels of a file, with a directory as the output. -/
def directoryArguments : List String := ["in.tif", "-f", "GeoJSON", "out"]

/-- What these arguments ask for. -/
def directorySettings : Settings where
  input := "in.tif"
  output := "out"
  format := some "GeoJSON"
  choice := .all

theorem opensDirectory_twoLevels :
    OpensDirectory directorySettings "GeoJSON" twoLevelRaster twoLevelFiles
      (twoLevelFiles.insert ["out"] .directory) where
  extension := by decide
  settled := rfl
  isGeoJson := by decide
  input := ⟨twoLevelBytes, rfl, readSource_twoLevelBytes⟩
  directory := rfl

/-- The place of the file of a level. -/
theorem exists_twoLevelWrite {index : ℕ} (hindex : index ≤ 1) :
    ∃ layer content,
      twoLevelRaster.levelWrite? (twoLevelFiles.insert ["out"] .directory) "out" index
        = some { layer, location := ["out", layerFileName index], content } := by
  obtain ⟨level, hlevel⟩ : ∃ level, twoLevelRaster.level index = .ok level := by
    interval_cases index <;> exact ⟨_, rfl⟩
  have hplace : (twoLevelFiles.insert ["out"] .directory).place?
      (Dataset.layerPath "out" (layerName index)) = some ["out", layerFileName index] := by
    interval_cases index <;> rfl
  exact ⟨_, _, levelWrite?_eq_some_iff.mpr ⟨level, hlevel, hplace, rfl, rfl⟩⟩

/-- Both levels are written, next to the raster. -/
theorem exists_convert_twoLevels :
    ∃ written events fs',
      (convert (Access.builtIn FileSystem.store) directorySettings).outcome twoLevelFiles
        = ((.ok written, events), fs')
      ∧ ∀ index ≤ twoLevelRaster.overviewCount, fs'.locate directorySettings.input
        ≠ fs'.locate (Dataset.layerPath directorySettings.output (layerName index)) := by
  obtain ⟨layer₀, content₀, hmain⟩ := exists_twoLevelWrite zero_le_one
  obtain ⟨layer₁, content₁, hoverview⟩ := exists_twoLevelWrite le_rfl
  let write : ℕ → LevelWrite := fun index =>
    if index = 0 then ⟨layer₀, ["out", layerFileName 0], content₀⟩
    else ⟨layer₁, ["out", layerFileName 1], content₁⟩
  have hlevels : directorySettings.choice.levels twoLevelRaster.overviewCount
      = [0, 1].map Int.ofNat := rfl
  have hwrites : ∀ index ∈ [0, 1], twoLevelRaster.levelWrite?
      (twoLevelFiles.insert ["out"] .directory) directorySettings.output index
        = some (write index) :=
    List.forall_mem_cons.mpr ⟨hmain, List.forall_mem_singleton.mpr hoverview⟩
  obtain ⟨events, hconvert⟩ := convert_gives opensDirectory_twoLevels hlevels hwrites []
  refine ⟨_, events, _, hconvert, fun index hindex hsame => ?_⟩
  have hindex' : index ≤ 1 := hindex
  interval_cases index <;> cases hsame

/-- Two levels, the overview in front of the full image. -/
theorem convert_levels_one_by_one_twoLevels :
    ∃ written events fs' g, ∃ layer : ℕ → WrittenLayer,
      Request.parse directoryArguments = .ok (.convert directorySettings)
      ∧ directorySettings.choice = .all
      ∧ ¬ (Path.extension? directorySettings.output).isSome = true
      ∧ twoLevelFiles.find directorySettings.input = .ok (.file twoLevelBytes)
      ∧ GeoTiffRaster.readSource directorySettings.input (.ofFile twoLevelBytes)
        = .ok twoLevelRaster
      ∧ twoLevelRaster.overviewCount < 2 ^ 31
      ∧ (convert (Access.builtIn FileSystem.store) directorySettings).outcome twoLevelFiles
        = ((.ok written, events), fs')
      ∧ (∀ index ≤ twoLevelRaster.overviewCount, fs'.locate directorySettings.input
        ≠ fs'.locate (Dataset.layerPath directorySettings.output (layerName index)))
      ∧ written.layers = [layer 0, layer 1] ∧ fs'.Same g
      ∧ Run.outcomes
          [convert (Access.builtIn FileSystem.store) (directorySettings.atLevel 1),
            convert (Access.builtIn FileSystem.store) (directorySettings.atLevel 0)] twoLevelFiles
        = ([.ok { driver := written.driver, layers := [layer 1] },
            .ok { driver := written.driver, layers := [layer 0] }], g) := by
  have hparse : Request.parse directoryArguments = .ok (.convert directorySettings) := rfl
  have hextension : ¬ (Path.extension? directorySettings.output).isSome = true := by decide
  have hfind : twoLevelFiles.find directorySettings.input = .ok (.file twoLevelBytes) := rfl
  have hcount : twoLevelRaster.overviewCount < 2 ^ 31 := by decide
  obtain ⟨written, events, fs', hconvert, hinput⟩ := exists_convert_twoLevels
  obtain ⟨layer, hlayers, -, horders⟩ := convert_levels_one_by_one hparse rfl hextension hfind
    readSource_twoLevelBytes hcount hconvert hinput
  obtain ⟨g, hsame, hconverts, -⟩ := horders [1, 0] (by decide)
  exact ⟨written, events, fs', g, layer, hparse, rfl, hextension, hfind, readSource_twoLevelBytes,
    hcount, hconvert, hinput, hlayers, hsame, hconverts⟩

end BlockExtent
