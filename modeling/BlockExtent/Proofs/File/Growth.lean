import BlockExtent.File.Store
import BlockExtent.Proofs.Result

/-!
# What stays in a file system

The operations of a file system make directories and files and write to files.  They
never take anything away, nor turn a file into a directory or the other way round.
That is why a path that has been found leads to the same place from then on.

## Main definitions

* `FileSystem.Grows` — directories stay directories and files stay files.
* `FileSystem.locate` — the location that a path leads to.
* `FileSystem.IsFileAt` — a path leads to a file at a location.
* `FileSystem.WritesFile` — a file is made and written, and nothing else is touched.

## Main results

* `FileSystem.Grows.follow` — a path that has been followed leads to the same place.
* `FileSystem.IsFileAt.mono`, `FileSystem.IsFileAt.find` — what is found of a file.
* `FileSystem.createFile_eq_ok` — a file that is made is there, and it is empty.
* `FileSystem.writesFile_append` — bytes added to a new file are all that is in it.
-/

namespace BlockExtent.FileSystem

/-! ### Growth -/

/-- Directories stay directories, files stay files, and relative paths start where
they did. -/
structure Grows (fs fs' : FileSystem) : Prop where
  workingDirectory_eq : fs'.workingDirectory = fs.workingDirectory
  directory : ∀ location, fs.lookup location = some .directory →
    fs'.lookup location = some .directory
  file : ∀ location content, fs.lookup location = some (.file content) →
    ∃ content', fs'.lookup location = some (.file content')

namespace Grows

variable {fs fs' fs'' : FileSystem}

theorem refl (fs : FileSystem) : Grows fs fs where
  workingDirectory_eq := rfl
  directory _ h := h
  file _ content h := ⟨content, h⟩

theorem trans (h : Grows fs fs') (h' : Grows fs' fs'') : Grows fs fs'' where
  workingDirectory_eq := h'.workingDirectory_eq.trans h.workingDirectory_eq
  directory location hlookup := h'.directory location (h.directory location hlookup)
  file location content hlookup := by
    obtain ⟨content', hlookup'⟩ := h.file location content hlookup
    exact h'.file location content' hlookup'

/-- A file can be put where there is no directory. -/
theorem insert_file {location : Location} (content : ByteArray) (hne : location ≠ [])
    (hnone : fs.lookup location ≠ some .directory) :
    Grows fs (fs.insert location (.file content)) where
  workingDirectory_eq := rfl
  directory other hlookup := by
    rw [lookup_insert hne]
    split
    · rename_i heq
      rw [heq] at hlookup
      exact absurd hlookup hnone
    · exact hlookup
  file other content' hlookup := by
    rw [lookup_insert hne]
    split
    · exact ⟨content, rfl⟩
    · exact ⟨content', hlookup⟩

theorem isSome_lookup (h : Grows fs fs') {location : Location}
    (hsome : (fs.lookup location).isSome = true) : (fs'.lookup location).isSome = true := by
  obtain ⟨node, hlookup⟩ := Option.isSome_iff_exists.mp hsome
  cases node with
  | directory => rw [h.directory location hlookup]; rfl
  | file content =>
    obtain ⟨content', hlookup'⟩ := h.file location content hlookup
    rw [hlookup']
    rfl

theorem start_eq (h : Grows fs fs') (path : String) : fs'.start path = fs.start path := by
  unfold start
  rw [h.workingDirectory_eq]

theorem below (h : Grows fs fs') {location next : Location} {name : String}
    (hbelow : fs.below location name = .ok next) : fs'.below location name = .ok next := by
  unfold FileSystem.below at hbelow ⊢
  cases hlookup : fs.lookup location with
  | none =>
    rw [hlookup] at hbelow
    cases hbelow
  | some node =>
    rw [hlookup] at hbelow
    cases node with
    | file content => cases hbelow
    | directory =>
      rw [h.directory location hlookup]
      exact hbelow

/-- **A path that has been followed leads to the same place.** -/
theorem follow (h : Grows fs fs') {names : List String} {location next : Location}
    (hfollow : fs.follow location names = .ok next) : fs'.follow location names = .ok next := by
  induction names generalizing location with
  | nil => exact hfollow
  | cons name names ih =>
    unfold FileSystem.follow at hfollow ⊢
    cases hbelow : fs.below location name with
    | error cause =>
      rw [hbelow] at hfollow
      cases hfollow
    | ok middle =>
      rw [hbelow] at hfollow
      rw [h.below hbelow]
      dsimp only at hfollow ⊢
      -- what was there is there still, although a file may hold other bytes
      by_cases hsome : (fs.lookup middle).isSome = true
      · rw [if_pos hsome] at hfollow
        rw [if_pos (h.isSome_lookup hsome)]
        exact ih hfollow
      · rw [if_neg hsome] at hfollow
        cases hfollow

end Grows

/-! ### Files at paths -/

/-- The location that a path leads to. -/
def locate (fs : FileSystem) (path : String) : Except FileError Location :=
  fs.follow (fs.start path) (Path.pieces path)

/-- A path leads to a file at a location. -/
structure IsFileAt (fs : FileSystem) (path : String) (location : Location) : Prop where
  checkPath_eq : checkPath path = .ok ()
  endsInSlash_eq : Path.endsInSlash path = false
  locate_eq : fs.locate path = .ok location

namespace IsFileAt

variable {fs fs' : FileSystem} {path : String} {location : Location} {content : ByteArray}

/-- A path goes on leading to the same file. -/
theorem mono (h : fs.IsFileAt path location) (hgrows : Grows fs fs') :
    fs'.IsFileAt path location where
  checkPath_eq := h.checkPath_eq
  endsInSlash_eq := h.endsInSlash_eq
  locate_eq := by
    unfold locate
    rw [hgrows.start_eq]
    exact hgrows.follow h.locate_eq

/-- What a file holds is found at its path. -/
theorem find (h : fs.IsFileAt path location) (hlookup : fs.lookup location = some (.file content)) :
    fs.find path = .ok (.file content) := by
  have hfollow := h.locate_eq
  unfold locate at hfollow
  unfold FileSystem.find
  rw [h.checkPath_eq, ok_bind, hfollow, ok_bind, hlookup]
  dsimp only
  rw [h.endsInSlash_eq]
  rfl

/-- What is found at a path is held by a file that the path leads to. -/
theorem of_find (h : fs.find path = .ok (.file content)) :
    ∃ location, fs.IsFileAt path location ∧ fs.lookup location = some (.file content) := by
  unfold FileSystem.find at h
  obtain ⟨⟨⟩, hcheck, h⟩ := bind_eq_ok h
  obtain ⟨location, hfollow, h⟩ := bind_eq_ok h
  cases hlookup : fs.lookup location with
  | none =>
    rw [hlookup] at h
    cases h
  | some node =>
    rw [hlookup] at h
    cases node with
    | directory => cases h
    | file found =>
      dsimp only at h
      split at h
      · cases h
      · rename_i hslash
        cases h
        exact ⟨location, ⟨hcheck, Bool.eq_false_iff.mpr hslash, hfollow⟩, hlookup⟩

end IsFileAt

/-! ### New names -/

variable {fs fs' : FileSystem} {path : String} {location directory : Location}

theorem follow_append (fs : FileSystem) (location : Location) (names others : List String) :
    fs.follow location (names ++ others)
      = (fs.follow location names).bind fun next => fs.follow next others := by
  induction names generalizing location with
  | nil => rfl
  | cons name names ih =>
    rw [List.cons_append, follow, follow]
    cases fs.below location name with
    | error cause => rfl
    | ok next =>
      dsimp only
      split
      · exact ih next
      · rfl

/-- What names lead on to is there. -/
theorem follow_cons_eq_ok {name : String} {names : List String} {start : Location}
    (h : fs.follow start (name :: names) = .ok location) :
    ∃ next, fs.below start name = .ok next ∧ fs.follow next names = .ok location := by
  unfold follow at h
  cases hbelow : fs.below start name with
  | error cause =>
    rw [hbelow] at h
    cases h
  | ok next =>
    rw [hbelow] at h
    dsimp only at h
    split at h
    · exact ⟨next, rfl, h⟩
    · cases h

/-- Only directories have something below them. -/
theorem lookup_of_below_eq_ok {name : String} (h : fs.below directory name = .ok location) :
    fs.lookup directory = some .directory := by
  unfold below at h
  split at h
  · cases h
  · cases h
  · assumption

/-- A name that is no dot and no two dots is added to the location of a directory. -/
theorem below_eq_ok {name : String} (hdot : name ≠ ".") (hdots : name ≠ "..")
    (h : fs.below directory name = .ok location) :
    fs.lookup directory = some .directory ∧ location = directory ++ [name] := by
  unfold below at h
  split at h
  · cases h
  · cases h
  · rename_i hlookup
    rw [if_neg hdot, if_neg hdots] at h
    split at h
    · cases h
    · exact ⟨hlookup, (Except.ok.inj h).symm⟩

/-- The last name of a path that may be that of something new, and the directory in
front of it. -/
theorem findLast_eq_ok (h : fs.findLast path = .ok (directory, true)) :
    checkPath path = .ok () ∧ ∃ names, Path.pieces path = names ++ [lastName path]
      ∧ lastName path ≠ "." ∧ lastName path ≠ ".."
      ∧ fs.follow (fs.start path) names = .ok directory := by
  unfold findLast at h
  obtain ⟨⟨⟩, hcheck, h⟩ := bind_eq_ok h
  refine ⟨hcheck, ?_⟩
  dsimp only at h
  cases hlast : (Path.pieces path).getLast? with
  | none =>
    rw [hlast] at h
    simp at h
  | some name =>
    have hname : lastName path = name := by
      unfold lastName
      rw [hlast]
      rfl
    obtain ⟨names, hpieces⟩ := List.getLast?_eq_some_iff.mp hlast
    rw [hlast] at h
    dsimp only at h
    rw [hpieces, List.dropLast_concat] at h
    obtain ⟨found, hfollow, h⟩ := bind_eq_ok h
    split at h
    · simp only [Except.ok.injEq, Prod.mk.injEq, decide_eq_true_eq] at h
      obtain ⟨rfl, hdot, hdots⟩ := h
      rw [hname]
      exact ⟨names, hpieces, hdot, hdots, hfollow⟩
    · cases h
    · cases h

/-- The location of the last name of a path, behind the directory in front of it.  The
path leads there as soon as there is something. -/
theorem below_findLast_eq_ok (hlast : fs.findLast path = .ok (directory, true))
    (hbelow : fs.below directory (lastName path) = .ok location) :
    location = directory ++ [lastName path]
      ∧ ∀ fs', Grows fs fs' → (fs'.lookup location).isSome = true →
        fs'.locate path = .ok location := by
  obtain ⟨-, names, hpieces, hdot, hdots, hfollow⟩ := findLast_eq_ok hlast
  refine ⟨(below_eq_ok hdot hdots hbelow).2, ?_⟩
  intro fs' hgrows hsome
  unfold locate
  rw [hgrows.start_eq, hpieces, follow_append, hgrows.follow hfollow]
  change FileSystem.follow fs' directory [lastName path] = _
  unfold follow
  rw [hgrows.below hbelow]
  dsimp only
  rw [if_pos hsome]
  rfl

/-- What it takes to make a file at a path. -/
theorem createFile_eq_ok_iff :
    fs.createFile path = .ok (location, fs') ↔
      ∃ directory, fs.findLast path = .ok (directory, true) ∧ Path.endsInSlash path = false
        ∧ fs.below directory (lastName path) = .ok location
        ∧ fs.lookup location ≠ some .directory ∧ fs' = fs.insert location (.file .empty) := by
  unfold createFile
  constructor
  · intro h
    obtain ⟨⟨directory, named⟩, hlast, h⟩ := bind_eq_ok h
    dsimp only at h
    split at h
    · cases h
    · rename_i hnamed
      obtain ⟨hnamed, hslash⟩ := not_or.mp hnamed
      rw [Bool.not_eq_false] at hnamed
      subst hnamed
      obtain ⟨found, hbelow, h⟩ := bind_eq_ok h
      split at h
      · cases h
      · rename_i hfile
        simp only [Except.ok.injEq, Prod.mk.injEq] at h
        obtain ⟨rfl, rfl⟩ := h
        exact ⟨directory, hlast, by simpa using hslash, hbelow, hfile, rfl⟩
  · rintro ⟨directory, hlast, hslash, hbelow, hfile, rfl⟩
    have hnamed : ¬ (true = false ∨ Path.endsInSlash path = true) := by simp [hslash]
    rw [hlast, ok_bind]
    dsimp only
    rw [if_neg hnamed, hbelow, ok_bind]
    split
    · rename_i hdirectory
      exact absurd hdirectory hfile
    · rfl

/-- **A file that is made is there, and it is empty.**  Its location ends in the last
name of its path, and there is no directory at it. -/
theorem createFile_eq_ok (h : fs.createFile path = .ok (location, fs')) :
    fs'.IsFileAt path location ∧ fs' = fs.insert location (.file .empty)
      ∧ Grows fs fs' ∧ location.getLast? = some (lastName path) := by
  obtain ⟨directory, hlast, hslash, hbelow, hfile, rfl⟩ := createFile_eq_ok_iff.mp h
  obtain ⟨rfl, hlocate⟩ := below_findLast_eq_ok hlast hbelow
  have hne : directory ++ [lastName path] ≠ [] :=
    List.append_ne_nil_of_right_ne_nil _ (List.cons_ne_nil _ _)
  have hgrows := Grows.insert_file .empty hne hfile
  have hsome : ((fs.insert (directory ++ [lastName path]) (.file .empty)).lookup
      (directory ++ [lastName path])).isSome = true := by
    rw [lookup_insert hne, if_pos rfl]
    rfl
  exact ⟨⟨(findLast_eq_ok hlast).1, hslash, hlocate _ hgrows hsome⟩, rfl, hgrows, by simp⟩

/-! ### Bytes in files -/

/-- Bytes are added to one file, and nothing else is changed. -/
theorem lookup_append {content : ByteArray} (bytes : ByteArray) (hne : location ≠ [])
    (h : fs.lookup location = some (.file content)) (other : Location) :
    (fs.append location bytes).lookup other
      = if other = location then some (.file (content ++ bytes)) else fs.lookup other := by
  unfold append
  rw [h]
  exact lookup_insert hne fs _ other

theorem grows_append {content : ByteArray} (bytes : ByteArray) (hne : location ≠ [])
    (h : fs.lookup location = some (.file content)) : Grows fs (fs.append location bytes) := by
  unfold append
  rw [h]
  refine Grows.insert_file _ hne ?_
  rw [h]
  rintro ⟨⟩

/-- A file is made at a path and written, and nothing else is touched. -/
structure WritesFile (fs fs' : FileSystem) (path : String) (location : Location)
    (content : ByteArray) : Prop where
  isFileAt : fs'.IsFileAt path location
  grows : Grows fs fs'
  getLast?_eq : location.getLast? = some (lastName path)
  lookup_eq : fs'.lookup location = some (.file content)
  lookup_of_ne : ∀ other, other ≠ location → fs'.lookup other = fs.lookup other

/-- **Bytes added to a new file are all that is in it.** -/
theorem writesFile_append (h : fs.createFile path = .ok (location, fs')) (bytes : ByteArray) :
    WritesFile fs (fs'.append location bytes) path location bytes := by
  obtain ⟨hfile, hinsert, hgrows, hlast⟩ := createFile_eq_ok h
  have hne : location ≠ [] := by
    rintro rfl
    cases hlast
  have hempty : fs'.lookup location = some (.file .empty) := by
    rw [hinsert, lookup_insert hne, if_pos rfl]
  have happend := grows_append bytes hne hempty
  refine ⟨hfile.mono happend, hgrows.trans happend, hlast, ?_, ?_⟩
  · rw [lookup_append bytes hne hempty, if_pos rfl, ByteArray.empty_append]
  · intro other hother
    rw [lookup_append bytes hne hempty, if_neg hother, hinsert, lookup_insert hne, if_neg hother]

/-! ### The operations of a store -/

theorem store_read (path : String) (fs : FileSystem) :
    store.read path fs =
      ((match fs.find path with
        | .error cause => .error cause
        | .ok .directory => .ok (.unreadable .isADirectory)
        | .ok (.file content) => .ok (.bytes content)), fs) := by
  unfold store
  dsimp only [bind, StateT.bind, get, getThe, MonadStateOf.get, StateT.get, pure, StateT.pure, Id]
  rcases fs.find path with cause | ⟨⟩ | content <;> rfl

theorem store_create (path : String) (fs : FileSystem) :
    store.create path fs =
      match fs.createFile path with
      | .ok (location, after) => (.ok location, after)
      | .error cause => (.error cause, fs) := by
  unfold store
  dsimp only [bind, StateT.bind, get, getThe, MonadStateOf.get, StateT.get, pure, StateT.pure, Id]
  rcases fs.createFile path with cause | ⟨location, after⟩ <;> rfl

theorem store_create_eq_ok (h : store.create path fs = (.ok location, fs')) :
    fs.createFile path = .ok (location, fs') := by
  rw [store_create] at h
  rcases hcreate : fs.createFile path with cause | ⟨found, after⟩
  · rw [hcreate] at h
    cases h
  · rw [hcreate] at h
    cases h
    rfl

end BlockExtent.FileSystem
