import BlockExtent.Proofs.CommandLine.SingleLevels
import BlockExtent.Proofs.Conversion.SingleFile
import BlockExtent.Proofs.GeoTiff.Levels

/-!
# All levels for a single file

A command line that asks for all levels of a raster with overviews cannot put them into a
single file.  It fails at the first overview, and what it leaves behind is what the command
line for the full resolution image alone leaves: one complete document.

## Main results

* `OpensFile.find_layer` — what a conversion of one level leaves in its file.
* `runCommandLine_singleFile` — **all levels for a single file.**
-/

namespace BlockExtent

open GeoJson

variable {fs fs₁ : FileSystem} {settings : Settings} {driver : String} {raster : GeoTiffRaster}
  {location : Location}

/-- A command line whose conversion fails. -/
theorem runCommandLine_fails {arguments : List String} {cause : Failure} {fs' : FileSystem}
    (hparse : Request.parse arguments = .ok (.convert settings))
    (h : Run.Fails (convert (Access.builtIn FileSystem.store) settings) fs cause fs') :
    Run.Fails (runCommandLine (Access.builtIn FileSystem.store) arguments) fs cause fs' := by
  unfold runCommandLine
  exact (Run.gives_ofExcept hparse id fs).bind_fails (h.bind _)

/-- With an overview, all levels are the full resolution image, the overview and others. -/
theorem LevelChoice.exists_levels_all {count : ℕ} (hcount : 1 ≤ count) (hlt : count < 2 ^ 63) :
    ∃ others, LevelChoice.all.levels count = Int.ofNat 0 :: Int.ofNat 1 :: others := by
  obtain ⟨n, rfl⟩ := Nat.exists_eq_add_of_le' hcount
  rw [levels_all hlt, List.range_succ_eq_map, List.range_succ_eq_map]
  exact ⟨_, rfl⟩

/-- The bytes of a level are all that is in the file of a conversion. -/
theorem OpensFile.find_layer (h : OpensFile settings driver raster location fs fs₁)
    (bytes : ByteArray) : (fs₁.append location bytes).find settings.output = .ok (.file bytes) := by
  have hwrites := FileSystem.writesFile_append h.file bytes
  exact hwrites.isFileAt.find hwrites.lookup_eq

/-- **All levels for a single file.**  The command line fails at the first overview, and
leaves what the command line for the full resolution image leaves: the document of that image,
complete, at the path of the output. -/
theorem runCommandLine_singleFile {arguments : List String} {content : ByteArray}
    (hparse : Request.parse arguments = .ok (.convert settings)) (hall : settings.choice = .all)
    (hextension : (Path.extension? settings.output).isSome = true)
    (hsettled : settledDriver settings = .ok driver) (hgeoJson : Access.isGeoJson driver = true)
    (hfind : fs.find settings.input = .ok (.file content))
    (hraster : GeoTiffRaster.readSource settings.input (.ofFile content) = .ok raster)
    (hcount : 1 ≤ raster.overviewCount)
    (hcreate : fs.createFile settings.output = .ok (location, fs₁)) :
    ∃ events fs',
      (runCommandLine (Access.builtIn FileSystem.store) arguments).outcome fs
        = ((.error (.singleLayerOnly "GeoJSON" "overview_1"), events), fs')
      ∧ Request.parse (levelArguments 0 arguments) = .ok (.convert (settings.atLevel 0))
      ∧ (∀ single, Request.parse single = .ok (.convert (settings.atLevel 0)) →
        ∃ events', (runCommandLine (Access.builtIn FileSystem.store) single).outcome fs
          = ((.ok { status := 0, output := "" }, events'), fs'))
      ∧ HasDocument fs' settings.output raster 0 := by
  have hopens : OpensFile settings driver raster location fs fs₁ :=
    ⟨hextension, hsettled, hgeoJson, ⟨content, hfind, hraster⟩, hcreate⟩
  have hoffers := GeoTiffRaster.offersLevels_of_readSource hraster
  obtain ⟨level, hlevel, -⟩ := hoffers.level_eq_ok 0 (Nat.zero_le _)
  obtain ⟨level₁, hlevel₁, -⟩ := hoffers.level_eq_ok 1 hcount
  obtain ⟨others, hlevels⟩ :=
    LevelChoice.exists_levels_all hcount (GeoTiffRaster.overviewCount_lt hraster)
  rw [← hall] at hlevels
  -- both runs end with the layer of the full resolution image in the new file
  have hfails := hopens.convert_file_fails hlevels hlevel hlevel₁
  have hgives := (hopens.atLevel 0).convert_file_gives rfl hlevel
  obtain ⟨events, hrun⟩ := runCommandLine_fails hparse hfails []
  refine ⟨events, _, hrun, Request.parse_levelArguments hparse hall (by decide), ?_, ?_⟩
  · intro single hsingle
    exact runCommandLine_gives hsingle hgives []
  · exact hasDocument_of_find hlevel (GeoTiffRaster.fits_of_level hraster hlevel) (hopens.find_layer _)

/-! ### Two levels -/

/-- The arguments for all levels of a file, with a file as the output. -/
def fileArguments : List String := ["in.tif", "out.geojson"]

/-- What these arguments ask for. -/
def fileSettings : Settings where
  input := "in.tif"
  output := "out.geojson"
  format := none
  choice := .all

/-- The two levels of a raster do not fit into one file. -/
theorem runCommandLine_singleFile_twoLevels :
    ∃ events events' fs',
      1 ≤ twoLevelRaster.overviewCount
      ∧ (runCommandLine (Access.builtIn FileSystem.store) fileArguments).outcome twoLevelFiles
        = ((.error (.singleLayerOnly "GeoJSON" "overview_1"), events), fs')
      ∧ (runCommandLine (Access.builtIn FileSystem.store)
          ["-ovr", "0", "in.tif", "out.geojson"]).outcome twoLevelFiles
        = ((.ok { status := 0, output := "" }, events'), fs')
      ∧ HasDocument fs' "out.geojson" twoLevelRaster 0 := by
  have hparse : Request.parse fileArguments = .ok (.convert fileSettings) := rfl
  have hextension : (Path.extension? fileSettings.output).isSome = true := by decide
  have hsettled : settledDriver fileSettings = .ok "GeoJSON" := rfl
  have hgeoJson : Access.isGeoJson "GeoJSON" = true := by decide
  have hfind : twoLevelFiles.find fileSettings.input = .ok (.file twoLevelBytes) := rfl
  have hcount : 1 ≤ twoLevelRaster.overviewCount := by decide
  have hcreate : twoLevelFiles.createFile fileSettings.output
      = .ok (["out.geojson"], twoLevelFiles.insert ["out.geojson"] (.file .empty)) := rfl
  obtain ⟨events, fs', hall, hsingle, hothers, hdocument⟩ := runCommandLine_singleFile hparse rfl
    hextension hsettled hgeoJson hfind readSource_twoLevelBytes hcount hcreate
  obtain ⟨events', hmain⟩ := hothers _ hsingle
  exact ⟨events, events', fs', hcount, hall, hmain, hdocument⟩

end BlockExtent
