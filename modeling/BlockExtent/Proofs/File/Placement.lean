import BlockExtent.Proofs.File.Directories

/-!
# Where files are put

Whether a file can be made at a path, and where, depends on the directories alone.  Files
can therefore be put one after the other without one getting in the way of another, and in
the end each location holds what was put there last.

## Main definitions

* `FileSystem.SameDirectories` — the directories of two file systems are the same.
* `FileSystem.Same` — two file systems are the same, byte for byte.
* `FileSystem.place?` — the location of the file that can be made at a path.
* `FileSystem.putFiles` — files are put at locations, one after the other.
* `FileSystem.TakesFiles` — there is no directory where files are to be put.

## Main results

* `FileSystem.SameDirectories.place?_eq` — files go to the same places.
* `FileSystem.lookup_putFiles_of_last`, `FileSystem.lookup_putFiles_of_notMem` — **the last
  file that is put at a location stays there**, and nothing else is touched.
* `FileSystem.same_putFiles_of_perm` — files at different locations may be put in any
  order.
* `FileSystem.isFileAt_putFiles` — the path of a file leads to its place.
-/

namespace BlockExtent.FileSystem

variable {fs fs' fs'' : FileSystem} {path : String} {location : Location}

/-! ### File systems with the same directories -/

/-- The directories of two file systems are the same, and relative paths start where they
did. -/
structure SameDirectories (fs fs' : FileSystem) : Prop where
  workingDirectory_eq : fs'.workingDirectory = fs.workingDirectory
  directory_iff : ∀ location,
    fs'.lookup location = some .directory ↔ fs.lookup location = some .directory

/-- Two file systems are the same, byte for byte. -/
structure Same (fs fs' : FileSystem) : Prop where
  workingDirectory_eq : fs'.workingDirectory = fs.workingDirectory
  lookup_eq : ∀ location, fs'.lookup location = fs.lookup location

namespace SameDirectories

theorem refl (fs : FileSystem) : SameDirectories fs fs := ⟨rfl, fun _ => .rfl⟩

theorem symm (h : SameDirectories fs fs') : SameDirectories fs' fs :=
  ⟨h.workingDirectory_eq.symm, fun location => (h.directory_iff location).symm⟩

theorem trans (h : SameDirectories fs fs') (h' : SameDirectories fs' fs'') :
    SameDirectories fs fs'' :=
  ⟨h'.workingDirectory_eq.trans h.workingDirectory_eq,
    fun location => (h'.directory_iff location).trans (h.directory_iff location)⟩

theorem start_eq (h : SameDirectories fs fs') (path : String) : fs'.start path = fs.start path := by
  unfold start
  rw [h.workingDirectory_eq]

/-- A file that is put where there is no directory makes no difference to directories. -/
theorem insert_file (content : ByteArray) (hne : location ≠ [])
    (hfile : fs.lookup location ≠ some .directory) :
    SameDirectories fs (fs.insert location (.file content)) where
  workingDirectory_eq := rfl
  directory_iff other := by
    rw [lookup_insert hne]
    split
    · rename_i heq
      subst heq
      exact ⟨by rintro ⟨⟩, fun hdirectory => absurd hdirectory hfile⟩
    · rfl

theorem below (h : SameDirectories fs fs') {directory : Location} {name : String}
    (hbelow : fs.below directory name = .ok location) :
    fs'.below directory name = .ok location := by
  have hdirectory := lookup_of_below_eq_ok hbelow
  unfold FileSystem.below at hbelow ⊢
  rw [hdirectory] at hbelow
  rw [(h.directory_iff directory).mpr hdirectory]
  exact hbelow

/-- The names on the way to a directory lead through directories. -/
theorem follow (h : SameDirectories fs fs') {start : Location} {names : List String}
    (hfollow : fs.follow start names = .ok location)
    (hdirectory : fs.lookup location = some .directory) :
    fs'.follow start names = .ok location := by
  induction names generalizing start with
  | nil => exact hfollow
  | cons name names ih =>
    obtain ⟨middle, hbelow, hrest⟩ := follow_cons_eq_ok hfollow
    have hmiddle : fs.lookup middle = some .directory := by
      cases names with
      | nil =>
        cases hrest
        exact hdirectory
      | cons next names =>
        obtain ⟨_, hnext, -⟩ := follow_cons_eq_ok hrest
        exact lookup_of_below_eq_ok hnext
    unfold FileSystem.follow
    rw [h.below hbelow]
    dsimp only
    rw [(h.directory_iff middle).mpr hmiddle]
    exact ih hrest

theorem findLast (h : SameDirectories fs fs') {named : Bool}
    (hlast : fs.findLast path = .ok (location, named)) :
    fs'.findLast path = .ok (location, named) := by
  unfold FileSystem.findLast at hlast ⊢
  obtain ⟨⟨⟩, hcheck, hlast⟩ := bind_eq_ok hlast
  rw [hcheck, ok_bind]
  dsimp only at hlast ⊢
  cases hname : (Path.pieces path).getLast? with
  | none =>
    rw [hname] at hlast
    exact hlast
  | some name =>
    rw [hname] at hlast
    dsimp only at hlast ⊢
    obtain ⟨directory, hfollow, hlast⟩ := bind_eq_ok hlast
    split at hlast
    · rename_i hdirectory
      rw [h.start_eq, h.follow hfollow hdirectory, ok_bind,
        (h.directory_iff directory).mpr hdirectory]
      exact hlast
    · cases hlast
    · cases hlast

end SameDirectories

/-! ### The place of a file -/

theorem checkPath_eq_ok_iff :
    checkPath path = .ok () ↔
      '\x00' ∉ path.toList ∧ path ≠ "" ∧ path.utf8ByteSize < pathLimit := by
  unfold checkPath
  by_cases hnul : '\x00' ∈ path.toList
  · simp [hnul]
  · by_cases hempty : path = ""
    · simp [hempty]
    · by_cases hsize : pathLimit ≤ path.utf8ByteSize
      · simp [hnul, hempty, hsize, Nat.not_lt.mpr hsize]
      · simp [hnul, hempty, hsize, Nat.lt_of_not_le hsize]

/-- The location of the file that can be made at a path. -/
def place? (fs : FileSystem) (path : String) : Option Location :=
  match fs.createFile path with
  | .ok (location, _) => some location
  | .error _ => none

theorem createFile_of_place? (h : fs.place? path = some location) :
    fs.createFile path = .ok (location, fs.insert location (.file .empty)) := by
  unfold place? at h
  split at h
  · rename_i found after hcreate
    obtain ⟨-, -, -, -, -, rfl⟩ := createFile_eq_ok_iff.mp hcreate
    rwa [Option.some.inj h] at hcreate
  · cases h

theorem createFile_of_place?_eq_none (h : fs.place? path = none) :
    ∃ cause, fs.createFile path = .error cause := by
  unfold place? at h
  split at h
  · cases h
  · exact ⟨_, by assumption⟩

/-- What it takes for a file to have a place. -/
theorem place?_eq_some_iff :
    fs.place? path = some location ↔
      ∃ directory, fs.findLast path = .ok (directory, true) ∧ Path.endsInSlash path = false
        ∧ fs.below directory (lastName path) = .ok location
        ∧ fs.lookup location ≠ some .directory := by
  constructor
  · intro h
    obtain ⟨directory, hlast, hslash, hbelow, hfile, -⟩ :=
      createFile_eq_ok_iff.mp (createFile_of_place? h)
    exact ⟨directory, hlast, hslash, hbelow, hfile⟩
  · rintro ⟨directory, hlast, hslash, hbelow, hfile⟩
    have hcreate := createFile_eq_ok_iff.mpr ⟨directory, hlast, hslash, hbelow, hfile, rfl⟩
    unfold place?
    rw [hcreate]

/-- There is no directory at the place of a file, and its path leads there. -/
theorem place?_spec (h : fs.place? path = some location) :
    location ≠ [] ∧ fs.lookup location ≠ some .directory
      ∧ location.getLast? = some (lastName path)
      ∧ ∀ content, (fs.insert location (.file content)).IsFileAt path location := by
  obtain ⟨hfile, -, hgrows, hlast⟩ := createFile_eq_ok (createFile_of_place? h)
  obtain ⟨_, -, -, -, hplace, -⟩ := createFile_eq_ok_iff.mp (createFile_of_place? h)
  have hne : location ≠ [] := by
    rintro rfl
    cases hlast
  refine ⟨hne, hplace, hlast, fun content => ?_⟩
  have hempty : (fs.insert location (.file .empty)).lookup location ≠ some .directory := by
    rw [lookup_insert hne, if_pos rfl]
    rintro ⟨⟩
  have hmono := hfile.mono (Grows.insert_file content hne hempty)
  rwa [insert_insert] at hmono

/-- Bytes that are added to a new file are all that is put at its place. -/
theorem insert_append (fs : FileSystem) (hne : location ≠ []) (bytes : ByteArray) :
    (fs.insert location (.file .empty)).append location bytes
      = fs.insert location (.file bytes) := by
  have hempty : (fs.insert location (.file .empty)).lookup location = some (.file .empty) := by
    rw [lookup_insert hne, if_pos rfl]
  unfold append
  rw [hempty]
  dsimp only
  rw [insert_insert, ByteArray.empty_append]

/-- **Files go to the same places** as long as the directories are the same. -/
theorem SameDirectories.place?_eq (h : SameDirectories fs fs') (path : String) :
    fs'.place? path = fs.place? path := by
  have hforward : ∀ {fs fs' : FileSystem}, SameDirectories fs fs' → ∀ location,
      fs.place? path = some location → fs'.place? path = some location := by
    intro fs fs' h location hplace
    obtain ⟨directory, hlast, hslash, hbelow, hfile⟩ := place?_eq_some_iff.mp hplace
    exact place?_eq_some_iff.mpr ⟨directory, h.findLast hlast, hslash, h.below hbelow,
      fun hdirectory => hfile ((h.directory_iff _).mp hdirectory)⟩
  refine Option.ext fun location => ⟨hforward h.symm location, hforward h location⟩

/-! ### Files that are put at locations -/

/-- Files are put at locations, one after the other. -/
def putFiles (fs : FileSystem) (files : List (Location × ByteArray)) : FileSystem :=
  files.foldl (fun fs file => fs.insert file.1 (.file file.2)) fs

@[simp] theorem putFiles_nil (fs : FileSystem) : fs.putFiles [] = fs := rfl

@[simp] theorem putFiles_cons (fs : FileSystem) (file : Location × ByteArray)
    (files : List (Location × ByteArray)) :
    fs.putFiles (file :: files) = (fs.insert file.1 (.file file.2)).putFiles files := rfl

theorem putFiles_append (fs : FileSystem) (files others : List (Location × ByteArray)) :
    fs.putFiles (files ++ others) = (fs.putFiles files).putFiles others :=
  List.foldl_append

@[simp] theorem workingDirectory_putFiles (fs : FileSystem)
    (files : List (Location × ByteArray)) :
    (fs.putFiles files).workingDirectory = fs.workingDirectory := by
  induction files generalizing fs with
  | nil => rfl
  | cons file files ih => rw [putFiles_cons, ih, workingDirectory_insert]

/-- A location that no file is put at holds what it held. -/
theorem lookup_putFiles_of_notMem {files : List (Location × ByteArray)}
    (hne : ∀ file ∈ files, file.1 ≠ []) (h : location ∉ files.map Prod.fst) :
    (fs.putFiles files).lookup location = fs.lookup location := by
  induction files generalizing fs with
  | nil => rfl
  | cons file files ih =>
    obtain ⟨hfile, hfiles⟩ := List.forall_mem_cons.mp hne
    rw [List.map_cons, List.mem_cons, not_or] at h
    rw [putFiles_cons, ih hfiles h.2, lookup_insert hfile, if_neg h.1]

/-- **The last file that is put at a location stays there.** -/
theorem lookup_putFiles_of_last {before after : List (Location × ByteArray)} {content : ByteArray}
    (hne : ∀ file ∈ before ++ (location, content) :: after, file.1 ≠ [])
    (h : location ∉ after.map Prod.fst) :
    (fs.putFiles (before ++ (location, content) :: after)).lookup location
      = some (.file content) := by
  obtain ⟨-, hlocation, hafter⟩ := by
    simpa only [List.forall_mem_append, List.forall_mem_cons] using hne
  rw [putFiles_append, putFiles_cons, lookup_putFiles_of_notMem hafter h, lookup_insert hlocation,
    if_pos rfl]

/-- Of files at different locations, each stays where it was put. -/
theorem lookup_putFiles_of_mem {files : List (Location × ByteArray)} {content : ByteArray}
    (hne : ∀ file ∈ files, file.1 ≠ []) (hnodup : (files.map Prod.fst).Nodup)
    (h : (location, content) ∈ files) :
    (fs.putFiles files).lookup location = some (.file content) := by
  obtain ⟨before, after, rfl⟩ := List.append_of_mem h
  refine lookup_putFiles_of_last hne fun hmem => ?_
  rw [List.map_append, List.map_cons, List.nodup_append] at hnodup
  exact (List.nodup_cons.mp hnodup.2.1).1 hmem

/-- **Files at different locations may be put in any order.** -/
theorem same_putFiles_of_perm {files files' : List (Location × ByteArray)}
    (hne : ∀ file ∈ files, file.1 ≠ []) (hnodup : (files.map Prod.fst).Nodup)
    (hperm : files'.Perm files) : Same (fs.putFiles files) (fs.putFiles files') where
  workingDirectory_eq := by rw [workingDirectory_putFiles, workingDirectory_putFiles]
  lookup_eq location := by
    have hne' : ∀ file ∈ files', file.1 ≠ [] := fun file hfile => hne file (hperm.mem_iff.mp hfile)
    have hnodup' : (files'.map Prod.fst).Nodup := (hperm.map Prod.fst).nodup_iff.mpr hnodup
    by_cases hmem : location ∈ files.map Prod.fst
    · obtain ⟨⟨_, content⟩, hfile, rfl⟩ := List.mem_map.mp hmem
      rw [lookup_putFiles_of_mem hne hnodup hfile,
        lookup_putFiles_of_mem hne' hnodup' (hperm.mem_iff.mpr hfile)]
    · have hmem' : location ∉ files'.map Prod.fst := by
        rwa [(hperm.map Prod.fst).mem_iff]
      rw [lookup_putFiles_of_notMem hne hmem, lookup_putFiles_of_notMem hne' hmem']

/-- There is no directory at any of the locations where files are to be put. -/
def TakesFiles (fs : FileSystem) (files : List (Location × ByteArray)) : Prop :=
  ∀ file ∈ files, file.1 ≠ [] ∧ fs.lookup file.1 ≠ some .directory

theorem TakesFiles.of_sameDirectories {files : List (Location × ByteArray)}
    (h : fs.TakesFiles files) (hsame : SameDirectories fs fs') : fs'.TakesFiles files :=
  fun file hfile => ⟨(h file hfile).1, fun hdirectory =>
    (h file hfile).2 ((hsame.directory_iff _).mp hdirectory)⟩

/-- Files that are put where there is no directory make no difference to directories, and
files stay files. -/
theorem sameDirectories_putFiles {files : List (Location × ByteArray)} (h : fs.TakesFiles files) :
    SameDirectories fs (fs.putFiles files) ∧ Grows fs (fs.putFiles files) := by
  induction files generalizing fs with
  | nil => exact ⟨.refl fs, .refl fs⟩
  | cons file files ih =>
    obtain ⟨⟨hne, hplace⟩, hfiles⟩ := List.forall_mem_cons.mp h
    have hfirst := SameDirectories.insert_file file.2 hne hplace
    obtain ⟨hsame, hgrows⟩ := ih (TakesFiles.of_sameDirectories hfiles hfirst)
    exact ⟨hfirst.trans hsame, (Grows.insert_file file.2 hne hplace).trans hgrows⟩

/-- The path of a file leads to its place once it has been put there. -/
theorem isFileAt_putFiles {files : List (Location × ByteArray)} (h : fs.TakesFiles files)
    (hplace : fs.place? path = some location) (hmem : location ∈ files.map Prod.fst) :
    (fs.putFiles files).IsFileAt path location := by
  obtain ⟨⟨_, content⟩, hfile, rfl⟩ := List.mem_map.mp hmem
  obtain ⟨before, after, rfl⟩ := List.append_of_mem hfile
  obtain ⟨hbefore, hrest⟩ := List.forall_mem_append.mp h
  obtain ⟨⟨hne, hlookup⟩, hafter⟩ := List.forall_mem_cons.mp hrest
  have hsame := (sameDirectories_putFiles hbefore).1
  have hplace' := (hsame.place?_eq path).trans hplace
  obtain ⟨-, hlookup', -, hthere⟩ := place?_spec hplace'
  have hafter' := TakesFiles.of_sameDirectories hafter
    (hsame.trans (SameDirectories.insert_file content hne hlookup'))
  rw [putFiles_append, putFiles_cons]
  exact (hthere content).mono (sameDirectories_putFiles hafter').2

end BlockExtent.FileSystem
