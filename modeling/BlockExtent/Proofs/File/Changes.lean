import BlockExtent.Proofs.File.Directories

/-!
# What is changed in a file system

An operation of a file system is given a path, and changes what is at the location of this
path, if anything.  Operations one after the other change what is at the locations of their
paths: a path that has led somewhere goes on leading there, so that the locations can be told
by the file system that is left in the end.

## Main definitions

* `FileSystem.ChangeAt` — what becomes of a location.
* `FileSystem.ChangesOnly` — files are written and directories are made at some paths, and
  nothing else is touched.

## Main results

* `FileSystem.ChangesOnly.trans` — changes one after the other.
* `FileSystem.ChangesOnly.grows` — nothing is taken away.
* `FileSystem.changesOnly_createFile`, `FileSystem.changesOnly_append` — files that are made
  and written.
* `FileSystem.changesOnly_makeDirectory` — directories that are made.
-/

namespace BlockExtent.FileSystem

/-- What becomes of a location.  Where something is written or made, one of the paths for it
leads in the end. -/
inductive ChangeAt (files directories : String → Prop) (fs fs' : FileSystem)
    (location : Location) : Prop where
  /-- Nothing. -/
  | unchanged (hlookup : fs'.lookup location = fs.lookup location)
  /-- A file is written where there is no directory. -/
  | written (path : String) (content : ByteArray) (hpath : files path)
      (hlocate : fs'.locate path = .ok location)
      (hplace : fs.lookup location ≠ some .directory)
      (hlookup : fs'.lookup location = some (.file content))
  /-- A directory is made where there is nothing. -/
  | made (path : String) (hpath : directories path) (hlocate : fs'.locate path = .ok location)
      (hplace : fs.lookup location = none) (hlookup : fs'.lookup location = some .directory)

/-- Files are written and directories are made at some paths, and nothing else is touched. -/
structure ChangesOnly (files directories : String → Prop) (fs fs' : FileSystem) : Prop where
  workingDirectory_eq : fs'.workingDirectory = fs.workingDirectory
  changeAt : ∀ location, ChangeAt files directories fs fs' location

variable {files directories files' directories' : String → Prop} {fs fs' fs'' : FileSystem}
  {path : String} {location : Location}

/-- A path goes on leading to the same place. -/
theorem Grows.locate (h : Grows fs fs') (hlocate : fs.locate path = .ok location) :
    fs'.locate path = .ok location := by
  unfold FileSystem.locate at hlocate ⊢
  rw [h.start_eq]
  exact h.follow hlocate

namespace ChangesOnly

theorem refl (files directories : String → Prop) (fs : FileSystem) :
    ChangesOnly files directories fs fs where
  workingDirectory_eq := rfl
  changeAt _ := .unchanged rfl

/-- Nothing is taken away. -/
theorem grows (h : ChangesOnly files directories fs fs') : Grows fs fs' where
  workingDirectory_eq := h.workingDirectory_eq
  directory location hdirectory := by
    cases h.changeAt location with
    | unchanged hlookup => rw [hlookup, hdirectory]
    | written _ _ _ _ hplace _ => exact absurd hdirectory hplace
    | made _ _ _ _ hlookup => exact hlookup
  file location content hfile := by
    cases h.changeAt location with
    | unchanged hlookup => exact ⟨content, by rw [hlookup, hfile]⟩
    | written _ content' _ _ _ hlookup => exact ⟨content', hlookup⟩
    | made _ _ _ hplace _ =>
      rw [hfile] at hplace
      cases hplace

/-- What may be changed at fewer paths may be changed at more. -/
theorem mono (h : ChangesOnly files directories fs fs') (hfiles : ∀ path, files path → files' path)
    (hdirectories : ∀ path, directories path → directories' path) :
    ChangesOnly files' directories' fs fs' where
  workingDirectory_eq := h.workingDirectory_eq
  changeAt location := by
    cases h.changeAt location with
    | unchanged hlookup => exact .unchanged hlookup
    | written path content hpath hlocate hplace hlookup =>
      exact .written path content (hfiles path hpath) hlocate hplace hlookup
    | made path hpath hlocate hplace hlookup =>
      exact .made path (hdirectories path hpath) hlocate hplace hlookup

/-- **Changes one after the other.** -/
theorem trans (h : ChangesOnly files directories fs fs')
    (h' : ChangesOnly files directories fs' fs'') : ChangesOnly files directories fs fs'' where
  workingDirectory_eq := h'.workingDirectory_eq.trans h.workingDirectory_eq
  changeAt location := by
    cases h'.changeAt location with
    | unchanged hlast =>
      cases h.changeAt location with
      | unchanged hlookup => exact .unchanged (hlast.trans hlookup)
      | written path content hpath hlocate hplace hlookup =>
        exact .written path content hpath (h'.grows.locate hlocate) hplace (hlast.trans hlookup)
      | made path hpath hlocate hplace hlookup =>
        exact .made path hpath (h'.grows.locate hlocate) hplace (hlast.trans hlookup)
    | written path content hpath hlocate hplace hlast =>
      -- a directory would have stayed one
      exact .written path content hpath hlocate
        (fun hdirectory => hplace (h.grows.directory location hdirectory)) hlast
    | made path hpath hlocate hplace hlast =>
      cases h.changeAt location with
      | unchanged hlookup => exact .made path hpath hlocate (hlookup.symm.trans hplace) hlast
      | written _ _ _ _ _ hlookup =>
        rw [hlookup] at hplace
        cases hplace
      | made _ _ _ _ hlookup =>
        rw [hlookup] at hplace
        cases hplace

end ChangesOnly

/-! ### Files -/

/-- A file that is made is the only change. -/
theorem changesOnly_createFile (hpath : files path)
    (h : fs.createFile path = .ok (location, fs')) : ChangesOnly files directories fs fs' := by
  obtain ⟨hfile, hinsert, -, hlast⟩ := createFile_eq_ok h
  obtain ⟨_, -, -, -, hplace, -⟩ := createFile_eq_ok_iff.mp h
  have hne : location ≠ [] := by
    rintro rfl
    cases hlast
  refine ⟨by rw [hinsert, workingDirectory_insert], fun other => ?_⟩
  have hlookup : fs'.lookup other
      = if other = location then some (.file .empty) else fs.lookup other := by
    rw [hinsert, lookup_insert hne]
  by_cases hother : other = location
  · subst hother
    rw [if_pos rfl] at hlookup
    exact .written path .empty hpath hfile.locate_eq hplace hlookup
  · rw [if_neg hother] at hlookup
    exact .unchanged hlookup

/-- Bytes that are added to a file are the only change, and there is none where there is no
file. -/
theorem changesOnly_append (hpath : files path) (hlocate : fs.locate path = .ok location)
    (bytes : ByteArray) : ChangesOnly files directories fs (fs.append location bytes) := by
  by_cases hfile : ∃ content, fs.lookup location = some (.file content)
  · obtain ⟨content, hfile⟩ := hfile
    have hne : location ≠ [] := by
      rintro rfl
      cases hfile
    have hgrows := grows_append bytes hne hfile
    refine ⟨hgrows.workingDirectory_eq, fun other => ?_⟩
    have hlookup := lookup_append bytes hne hfile other
    by_cases hother : other = location
    · subst hother
      rw [if_pos rfl] at hlookup
      refine .written path _ hpath (hgrows.locate hlocate) ?_ hlookup
      rw [hfile]
      rintro ⟨⟩
    · rw [if_neg hother] at hlookup
      exact .unchanged hlookup
  · have hsame : fs.append location bytes = fs := by
      unfold append
      split
      · rename_i content hcontent
        exact absurd ⟨content, hcontent⟩ hfile
      · rfl
    rw [hsame]
    exact .refl files directories fs

/-! ### Directories -/

/-- A directory that is made is the only change. -/
theorem changesOnly_makeDirectory (hpath : directories path) (h : fs.makeDirectory path = .ok fs') :
    ChangesOnly files directories fs fs' := by
  obtain ⟨location, hne, hplace, rfl, -, hlocate⟩ := exists_makeDirectory h
  refine ⟨rfl, fun other => ?_⟩
  have hlookup := lookup_insert hne fs .directory other
  by_cases hother : other = location
  · subst hother
    rw [if_pos rfl] at hlookup
    exact .made path hpath hlocate hplace hlookup
  · rw [if_neg hother] at hlookup
    exact .unchanged hlookup

end BlockExtent.FileSystem
