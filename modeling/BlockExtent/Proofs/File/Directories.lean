import BlockExtent.Proofs.File.Growth

/-!
# Directories that are made

Making a directory makes those above it where they are missing, and touches nothing that
is there.  Once it has succeeded it succeeds again, and there is nothing left to do.

## Main definitions

* `FileSystem.AddsDirectories` — directories are made where there was nothing.
* `FileSystem.LeadsToDirectory` — a path leads to a directory.

## Main results

* `FileSystem.isDirectory_iff` — there is a directory at the location of a path.
* `FileSystem.makeDirectories_spec` — what making directories leaves.
* `FileSystem.makeDirectories_of_leadsToDirectory` — a directory that is there is left alone.
-/

namespace BlockExtent.FileSystem

/-- Directories are made where there was nothing, and nothing else is touched. -/
structure AddsDirectories (fs fs' : FileSystem) : Prop where
  workingDirectory_eq : fs'.workingDirectory = fs.workingDirectory
  lookup_eq : ∀ location, fs'.lookup location = fs.lookup location
    ∨ fs.lookup location = none ∧ fs'.lookup location = some .directory

namespace AddsDirectories

variable {fs fs' fs'' : FileSystem}

theorem refl (fs : FileSystem) : AddsDirectories fs fs where
  workingDirectory_eq := rfl
  lookup_eq _ := .inl rfl

theorem trans (h : AddsDirectories fs fs') (h' : AddsDirectories fs' fs'') :
    AddsDirectories fs fs'' where
  workingDirectory_eq := h'.workingDirectory_eq.trans h.workingDirectory_eq
  lookup_eq location := by
    rcases h.lookup_eq location with hsame | ⟨hnone, hmade⟩
    · rw [← hsame]
      exact h'.lookup_eq location
    · rcases h'.lookup_eq location with hsame' | ⟨hnone', -⟩
      · exact .inr ⟨hnone, hsame'.trans hmade⟩
      · rw [hmade] at hnone'
        cases hnone'

/-- What was there is there still. -/
theorem lookup_of_some (h : AddsDirectories fs fs') {location : Location} {node : Node}
    (hlookup : fs.lookup location = some node) : fs'.lookup location = some node := by
  rcases h.lookup_eq location with hsame | ⟨hnone, -⟩
  · rw [hsame, hlookup]
  · rw [hlookup] at hnone
    cases hnone

theorem grows (h : AddsDirectories fs fs') : Grows fs fs' where
  workingDirectory_eq := h.workingDirectory_eq
  directory _ hlookup := h.lookup_of_some hlookup
  file _ content hlookup := ⟨content, h.lookup_of_some hlookup⟩

theorem insert_directory {location : Location} (hne : location ≠ [])
    (hnone : fs.lookup location = none) : AddsDirectories fs (fs.insert location .directory) where
  workingDirectory_eq := rfl
  lookup_eq other := by
    rw [lookup_insert hne]
    split
    · rename_i heq
      exact .inr ⟨heq ▸ hnone, rfl⟩
    · exact .inl rfl

end AddsDirectories

variable {fs fs' : FileSystem} {path : String} {location : Location}

/-! ### Directories at paths -/

/-- There is a directory at the location that a path leads to. -/
theorem isDirectory_iff :
    fs.isDirectory path = true ↔ checkPath path = .ok ()
      ∧ ∃ location, fs.locate path = .ok location ∧ fs.lookup location = some .directory := by
  unfold isDirectory FileSystem.find locate
  rcases hcheck : checkPath path with cause | ⟨⟩
  · simp [bind, Except.bind]
  · rw [ok_bind]
    rcases hfollow : fs.follow (fs.start path) (Path.pieces path) with cause | location
    · simp [bind, Except.bind]
    · rw [ok_bind]
      rcases hlookup : fs.lookup location with _ | ⟨⟩ | content
      · simp [hlookup]
      · simp [hlookup]
      · by_cases hslash : Path.endsInSlash path = true <;> simp [hlookup, hslash]

/-- A directory at a path stays there. -/
theorem Grows.isDirectory (h : Grows fs fs') (hdirectory : fs.isDirectory path = true) :
    fs'.isDirectory path = true := by
  obtain ⟨hcheck, location, hlocate, hlookup⟩ := isDirectory_iff.mp hdirectory
  refine isDirectory_iff.mpr ⟨hcheck, location, ?_, h.directory location hlookup⟩
  unfold locate
  rw [h.start_eq]
  exact h.follow hlocate

/-! ### Making a directory -/

/-- A directory is made at a location where there was nothing, and its path leads there. -/
theorem exists_makeDirectory (h : fs.makeDirectory path = .ok fs') :
    ∃ location, location ≠ [] ∧ fs.lookup location = none
      ∧ fs' = fs.insert location .directory ∧ checkPath path = .ok ()
      ∧ fs'.locate path = .ok location := by
  unfold makeDirectory at h
  obtain ⟨⟨directory, named⟩, hlast, h⟩ := bind_eq_ok h
  dsimp only at h
  split at h
  · cases h
  · rename_i hnamed
    rw [Bool.not_eq_false] at hnamed
    subst hnamed
    obtain ⟨found, hbelow, h⟩ := bind_eq_ok h
    obtain ⟨hfound, hlocate⟩ := below_findLast_eq_ok hlast hbelow
    split at h
    · cases h
    · rename_i hnone
      obtain rfl := Except.ok.inj h
      have hne : found ≠ [] := by
        rw [hfound]
        exact List.append_ne_nil_of_right_ne_nil _ (List.cons_ne_nil _ _)
      refine ⟨found, hne, hnone, rfl, (findLast_eq_ok hlast).1, ?_⟩
      refine hlocate _ (AddsDirectories.insert_directory hne hnone).grows ?_
      rw [lookup_insert hne, if_pos rfl]
      rfl

/-- A directory that is made is there. -/
theorem makeDirectory_eq_ok (h : fs.makeDirectory path = .ok fs') :
    AddsDirectories fs fs' ∧ fs'.isDirectory path = true := by
  obtain ⟨location, hne, hnone, rfl, hcheck, hlocate⟩ := exists_makeDirectory h
  refine ⟨.insert_directory hne hnone, isDirectory_iff.mpr ⟨hcheck, location, hlocate, ?_⟩⟩
  rw [lookup_insert hne, if_pos rfl]

/-- Following a last name leads from a directory. -/
theorem follow_concat_eq_ok {start : Location} {names : List String} {name : String}
    (h : fs.follow start (names ++ [name]) = .ok location) :
    ∃ directory, fs.follow start names = .ok directory
      ∧ fs.lookup directory = some .directory ∧ fs.below directory name = .ok location := by
  rw [follow_append] at h
  obtain ⟨directory, hfollow, h⟩ := bind_eq_ok h
  obtain ⟨next, hbelow, hnext⟩ := follow_cons_eq_ok h
  cases hnext
  exact ⟨directory, hfollow, lookup_of_below_eq_ok hbelow, hbelow⟩

/-- Where there is a directory, none can be made. -/
theorem makeDirectory_of_isDirectory (h : fs.isDirectory path = true) :
    fs.makeDirectory path = .error .alreadyExists := by
  obtain ⟨hcheck, location, hlocate, hlookup⟩ := isDirectory_iff.mp h
  unfold locate at hlocate
  unfold makeDirectory findLast
  rw [hcheck, ok_bind]
  dsimp only
  cases hlast : (Path.pieces path).getLast? with
  | none => rfl
  | some name =>
    obtain ⟨names, hpieces⟩ := List.getLast?_eq_some_iff.mp hlast
    rw [hpieces] at hlocate
    obtain ⟨directory, hfollow, hdirectory, hbelow⟩ := follow_concat_eq_ok hlocate
    have hname : lastName path = name := by
      unfold lastName
      rw [hlast]
      rfl
    dsimp only
    rw [hpieces, List.dropLast_concat, hfollow, ok_bind, hdirectory]
    dsimp only
    rw [ok_bind]
    dsimp only
    split
    · rfl
    · rw [hname, hbelow, ok_bind, hlookup]

theorem store_makeDirectory (path : String) (fs : FileSystem) :
    store.makeDirectory path fs =
      match fs.makeDirectory path with
      | .ok after => (.ok (), after)
      | .error cause => (.error cause, fs) := by
  unfold store
  dsimp only [bind, StateT.bind, get, getThe, MonadStateOf.get, StateT.get, pure, StateT.pure, Id]
  rcases fs.makeDirectory path with cause | after <;> rfl

theorem store_acceptDirectory (path : String) (cause : FileError) (fs : FileSystem) :
    FileStore.makeDirectoriesFrom.acceptDirectory store path cause fs
      = (if fs.isDirectory path = true then .ok () else .error cause, fs) := by
  unfold FileStore.makeDirectoriesFrom.acceptDirectory store
  dsimp only [bind, StateT.bind, get, getThe, MonadStateOf.get, StateT.get, pure, StateT.pure, Id]
  split <;> rfl

/-! ### Making a directory and those above it -/

/-- A path leads to a directory, which it does without any name as well. -/
def LeadsToDirectory (fs : FileSystem) (path : String) : Prop :=
  path = "" ∨ fs.isDirectory path = true

theorem LeadsToDirectory.mono (h : fs.LeadsToDirectory path) (hgrows : Grows fs fs') :
    fs'.LeadsToDirectory path :=
  h.imp_right hgrows.isDirectory

/-- The directory is at some location. -/
theorem LeadsToDirectory.exists_locate (h : fs.LeadsToDirectory path) :
    ∃ directory, fs.locate path = .ok directory := by
  rcases h with rfl | hdirectory
  · exact ⟨fs.workingDirectory, rfl⟩
  · obtain ⟨-, directory, hlocate, -⟩ := isDirectory_iff.mp hdirectory
    exact ⟨directory, hlocate⟩

/-- An attempt at making a directory, which is accepted where there is one. -/
def makeOrAccept (fs : FileSystem) (path : String) : Except FileError Unit × FileSystem :=
  match fs.makeDirectory path with
  | .ok after => (.ok (), after)
  | .error cause => (if fs.isDirectory path = true then .ok () else .error cause, fs)

theorem makeOrAccept_spec {result : Except FileError Unit}
    (h : fs.makeOrAccept path = (result, fs')) :
    AddsDirectories fs fs' ∧ (result = .ok () → fs'.LeadsToDirectory path) := by
  unfold makeOrAccept at h
  rcases hmake : fs.makeDirectory path with cause | after
  · rw [hmake] at h
    obtain ⟨rfl, rfl⟩ := Prod.mk.inj h
    refine ⟨.refl _, fun hok => ?_⟩
    by_cases hdirectory : fs.isDirectory path = true
    · exact .inr hdirectory
    · rw [if_neg hdirectory] at hok
      cases hok
  · rw [hmake] at h
    cases h
    obtain ⟨hadds, hdirectory⟩ := makeDirectory_eq_ok hmake
    exact ⟨hadds, fun _ => .inr hdirectory⟩

theorem store_makeOrAccept (path : String) (fs : FileSystem) :
    (do
      match ← store.makeDirectory path with
      | .ok () => return .ok ()
      | .error cause => FileStore.makeDirectoriesFrom.acceptDirectory store path cause :
        StateM FileSystem (Except FileError Unit)) fs = fs.makeOrAccept path := by
  rw [stateM_bind_apply, store_makeDirectory]
  unfold makeOrAccept
  rcases fs.makeDirectory path with cause | after
  · exact store_acceptDirectory path cause fs
  · rfl

/-- A directory is made at the second attempt if it takes those above it first. -/
theorem store_makeDirectoriesFrom_cons (path : String) (above : List String) (fs : FileSystem) :
    store.makeDirectoriesFrom (path :: above) fs =
      if path = "" then (.ok (), fs)
      else
        match fs.makeDirectory path with
        | .error .notFound =>
          match store.makeDirectoriesFrom above fs with
          | (.ok (), after) => after.makeOrAccept path
          | (.error cause, after) => (.error cause, after)
        | _ => fs.makeOrAccept path := by
  rw [FileStore.makeDirectoriesFrom]
  by_cases hempty : path = ""
  · rw [if_pos hempty, if_pos hempty]
    rfl
  · rw [if_neg hempty, if_neg hempty, stateM_bind_apply, store_makeDirectory]
    -- only a missing directory above is worth a second attempt
    by_cases hmissing : fs.makeDirectory path = .error .notFound
    · rw [hmissing]
      dsimp only
      rw [stateM_bind_apply]
      rcases store.makeDirectoriesFrom above fs with ⟨cause | ⟨⟩, after⟩
      · rfl
      · exact store_makeOrAccept path after
    · unfold makeOrAccept
      rcases hmake : fs.makeDirectory path with cause | after
      · have haccept := store_acceptDirectory path cause fs
        cases cause
        case notFound => exact absurd hmake hmissing
        all_goals exact haccept
      · rfl

/-- Making directories adds directories, whether or not all of them are made.  If it
succeeds, the first of them is there. -/
theorem makeDirectoriesFrom_spec {paths : List String} {result : Except FileError Unit}
    (h : store.makeDirectoriesFrom paths fs = (result, fs')) :
    AddsDirectories fs fs'
      ∧ (result = .ok () → ∀ path ∈ paths.head?, fs'.LeadsToDirectory path) := by
  induction paths generalizing fs fs' result with
  | nil =>
    cases h
    exact ⟨.refl _, by rintro ⟨⟩⟩
  | cons path above ih =>
    simp only [List.head?_cons, Option.mem_some_iff, forall_eq']
    rw [store_makeDirectoriesFrom_cons] at h
    split at h
    · rename_i hempty
      cases h
      exact ⟨.refl _, fun _ => .inl hempty⟩
    · split at h
      · rcases habove : store.makeDirectoriesFrom above fs with ⟨cause | ⟨⟩, after⟩
        · rw [habove] at h
          cases h
          exact ⟨(ih habove).1, by rintro ⟨⟩⟩
        · rw [habove] at h
          obtain ⟨hadds, hok⟩ := makeOrAccept_spec h
          exact ⟨(ih habove).1.trans hadds, hok⟩
      · exact makeOrAccept_spec h

/-- **Making a directory adds directories, and if it succeeds the directory is there.** -/
theorem makeDirectories_spec {result : Except FileError Unit}
    (h : store.makeDirectories path fs = (result, fs')) :
    AddsDirectories fs fs' ∧ (result = .ok () → fs'.LeadsToDirectory path) := by
  obtain ⟨hadds, hok⟩ := makeDirectoriesFrom_spec h
  exact ⟨hadds, fun hresult => hok hresult path rfl⟩

/-- **A directory that is there is left alone.** -/
theorem makeDirectories_of_leadsToDirectory (h : fs.LeadsToDirectory path) :
    store.makeDirectories path fs = (.ok (), fs) := by
  unfold FileStore.makeDirectories Path.ancestors
  rw [store_makeDirectoriesFrom_cons]
  rcases h with hempty | hdirectory
  · rw [if_pos hempty]
  · split
    · rfl
    · unfold makeOrAccept
      rw [makeDirectory_of_isDirectory hdirectory]
      dsimp only
      rw [if_pos hdirectory]

end BlockExtent.FileSystem
