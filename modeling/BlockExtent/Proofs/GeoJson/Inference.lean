import BlockExtent.Proofs.Conversion.Directory
import BlockExtent.Proofs.File.Names
import BlockExtent.Proofs.GeoJson.Sessions

/-!
# Datasets for an inferred driver

The driver of an output and the kind of its dataset are both told by what follows the last dot
of its name.  They disagree about one kind of name.  For the choice of a driver a dot that the
name starts with is as good as any; for the dataset it separates nothing.  A path for which
GeoJSON is inferred is thus created as a single file, unless its name is nothing but the
extension: such a path becomes a directory.

## Main results

* `driversFor_of_chooseDriver` — a driver that is inferred is the first of those there are.
* `exists_fileName_of_chooseDriver` — the names that GeoJSON is inferred for.
* `create_of_chooseDriver` — **what is created at a path that GeoJSON is inferred for.**
-/

namespace BlockExtent

variable {σ : Type} {path : String}

/-! ### Names with an extension -/

/-- An extension without a dot is what follows the last dot. -/
theorem splitLast_of_nameExtension? {name extension : List Char}
    (h : nameExtension? name = some extension) (hdot : '.' ∉ extension) :
    ∃ stem, splitLast '.' name = some (stem, extension) := by
  unfold nameExtension? at h
  split at h
  · cases h
  · cases h
  · rename_i stem last hlast hsplit
    split at h
    · split at h
      · -- the extension in front of `zip` comes with its dot
        cases h
        simp at hdot
      · cases h
        exact ⟨stem, hsplit⟩
    · cases h
      exact ⟨stem, hsplit⟩

/-! ### Inferred drivers -/

/-- A driver that is inferred, and not that of a path without an extension, is the first of
those that there are. -/
theorem driversFor_of_chooseDriver {driver : String} {events events' : List Event} {s s' : σ}
    (hmemory : driver ≠ DatasetKind.vector.memoryDriver)
    (hdefault : driver ≠ DatasetKind.vector.defaultDriver)
    (h : (chooseDriver .vector path : Run (StateM σ) String).exec events s
      = ((.ok driver, events'), s')) : ∃ others, driversFor .vector path = driver :: others := by
  obtain ⟨events₁, hexec⟩ := exec_driverOf ⟨"", path, none, .all⟩ events s
  change (chooseDriver .vector path).exec events s = _ at hexec
  rw [hexec] at h
  simp only [settledDriver, Prod.mk.injEq] at h
  obtain ⟨⟨hsettled, -⟩, -⟩ := h
  split at hsettled
  · exact absurd (Except.ok.inj hsettled).symm hmemory
  · split at hsettled
    · rename_i first others hdrivers
      cases hsettled
      exact ⟨others, hdrivers⟩
    · split at hsettled
      · cases hsettled
      · exact absurd (Except.ok.inj hsettled).symm hdefault

/-- The names that an extension is read of. -/
theorem exists_fileName_of_driverExtension? {extension : String}
    (h : driverExtension? path = some extension) (hdot : '.' ∉ extension.toList) :
    ∃ front after, Path.fileName? path = some (String.ofList (front ++ '.' :: after))
      ∧ after.map Char.toLower = extension.toList ∧ '.' ∉ after := by
  obtain ⟨name, hname, hextension⟩ := Option.bind_eq_some_iff.mp h
  obtain ⟨found, hfound, rfl⟩ := Option.map_eq_some_iff.mp hextension
  rw [String.toList_ofList] at hdot ⊢
  obtain ⟨stem, hstem⟩ := splitLast_of_nameExtension? hfound hdot
  obtain ⟨front, after, hsplit, hafter⟩ := exists_splitLast_of_toLower hstem
  obtain ⟨hlist, hnone⟩ := eq_of_splitLast hsplit
  refine ⟨front, after, ?_, hafter, hnone⟩
  rw [hname, ← hlist, String.ofList_toList]

/-- **The names that GeoJSON is inferred for** end in a dot and one of its extensions. -/
theorem exists_fileName_of_chooseDriver {events events' : List Event} {s s' : σ}
    (h : (chooseDriver .vector path : Run (StateM σ) String).exec events s
      = ((.ok "GeoJSON", events'), s')) :
    ∃ front after, Path.fileName? path = some (String.ofList (front ++ '.' :: after))
      ∧ (after.map Char.toLower = "geojson".toList ∨ after.map Char.toLower = "json".toList)
      ∧ '.' ∉ after := by
  obtain ⟨others, hdrivers⟩ := driversFor_of_chooseDriver (by decide) (by decide) h
  obtain ⟨-, hgeojson | hjson⟩ := driversFor_isGeoJson hdrivers (by decide)
  · obtain ⟨front, after, hname, hafter, hnone⟩ :=
      exists_fileName_of_driverExtension? hgeojson (by decide)
    exact ⟨front, after, hname, .inl hafter, hnone⟩
  · obtain ⟨front, after, hname, hafter, hnone⟩ :=
      exists_fileName_of_driverExtension? hjson (by decide)
    exact ⟨front, after, hname, .inr hafter, hnone⟩

/-! ### Their datasets -/

namespace GeoJson.Dataset

/-- A name has an extension for the dataset if something stands in front of its last dot. -/
theorem isSome_extension?_iff {front after : List Char}
    (hname : Path.fileName? path = some (String.ofList (front ++ '.' :: after)))
    (hdot : '.' ∉ after) : (Path.extension? path).isSome = true ↔ front ≠ [] := by
  unfold Path.extension?
  rw [hname, Option.bind_some, String.toList_ofList, splitLast_append_cons hdot]
  cases front with
  | nil => simp
  | cons c front => simp

/-- **What is created at a path that GeoJSON is inferred for**: a single file, which is empty,
unless the name of the path starts with its last dot.  Then it is a directory. -/
theorem create_of_chooseDriver {fs fs' : FileSystem} {events events' : List Event}
    {dataset : Dataset Location}
    (hinferred : (chooseDriver .vector path : Run (StateM FileSystem) String).outcome fs
      = ((.ok "GeoJSON", events), fs))
    (hcreate : (create FileSystem.store path).outcome fs = ((.ok dataset, events'), fs')) :
    ∃ front after, Path.fileName? path = some (String.ofList (front ++ '.' :: after))
      ∧ (after.map Char.toLower = "geojson".toList ∨ after.map Char.toLower = "json".toList)
      ∧ (front ≠ [] → (∃ location, dataset.target = .file path location)
        ∧ fs'.find path = .ok (.file .empty))
      ∧ (front = [] → dataset.target = .directory path ∧ fs'.isDirectory path = true) := by
  obtain ⟨front, after, hname, hafter, hdot⟩ := exists_fileName_of_chooseDriver hinferred
  have hextension := isSome_extension?_iff hname hdot
  refine ⟨front, after, hname, hafter, ?_, ?_⟩
  · intro hfront
    obtain ⟨location, rfl, hfile⟩ := create_file_eq_ok (hextension.mpr hfront) hcreate
    obtain ⟨hthere, rfl, -, hlast⟩ := FileSystem.createFile_eq_ok hfile
    have hne : location ≠ [] := by
      rintro rfl
      cases hlast
    refine ⟨⟨location, rfl⟩, hthere.find ?_⟩
    rw [FileSystem.lookup_insert hne, if_pos rfl]
  · intro hfront
    obtain ⟨rfl, hmake⟩ := create_directory_eq_ok (mt hextension.mp (not_not.mpr hfront)) hcreate
    refine ⟨rfl, ?_⟩
    rcases (FileSystem.makeDirectories_spec hmake).2 rfl with rfl | hdirectory
    · cases hname
    · exact hdirectory

/-- A name in capitals, with something like an extension in front of its last dot. -/
theorem create_of_chooseDriver_capitals :
    ∃ events,
      (chooseDriver .vector "grid.v2.GeoJSON" : Run (StateM FileSystem) String).outcome staleFile
        = ((.ok "GeoJSON", events), staleFile)
      ∧ ∃ fs', (create FileSystem.store "grid.v2.GeoJSON").outcome staleFile
          = ((.ok { target := .file "grid.v2.GeoJSON" ["grid.v2.GeoJSON"], layers := 0 }, []), fs')
        ∧ fs'.find "grid.v2.GeoJSON" = .ok (.file .empty) := by
  obtain ⟨events, hinferred⟩ : ∃ events,
      (chooseDriver .vector "grid.v2.GeoJSON" : Run (StateM FileSystem) String).outcome staleFile
        = ((.ok "GeoJSON", events), staleFile) := ⟨_, rfl⟩
  have hcreate : (create FileSystem.store "grid.v2.GeoJSON").outcome staleFile
      = ((.ok { target := .file "grid.v2.GeoJSON" ["grid.v2.GeoJSON"], layers := 0 }, []),
        staleFile.insert ["grid.v2.GeoJSON"] (.file .empty)) := rfl
  obtain ⟨front, after, hname, -, hfile, -⟩ := create_of_chooseDriver hinferred hcreate
  have hfront : front ≠ [] := by
    rintro rfl
    have hgrid : Path.fileName? "grid.v2.GeoJSON" = some "grid.v2.GeoJSON" := rfl
    rw [hgrid, Option.some_inj, ← String.toList_inj, String.toList_ofList] at hname
    exact absurd (congrArg List.head? hname) (by simp)
  exact ⟨events, hinferred, _, hcreate, (hfile hfront).2⟩

/-- A name that is nothing but an extension is that of a directory. -/
theorem create_dotFile :
    ∃ events,
      (chooseDriver .vector ".geojson" : Run (StateM FileSystem) String).outcome staleFile
        = ((.ok "GeoJSON", events), staleFile)
      ∧ (create FileSystem.store ".geojson").outcome staleFile
        = ((.ok { target := .directory ".geojson", layers := 0 }, []),
          staleFile.insert [".geojson"] .directory)
      ∧ (staleFile.insert [".geojson"] .directory).isDirectory ".geojson" = true :=
  ⟨_, rfl, rfl, by decide⟩

end GeoJson.Dataset

end BlockExtent
