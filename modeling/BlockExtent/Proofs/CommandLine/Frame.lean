import BlockExtent.CommandLine.Run
import BlockExtent.Proofs.Conversion.Frame
import BlockExtent.Proofs.GeoJson.Sessions

/-!
# What a command line touches

Arguments that make no sense, an output that no driver is known for and an input that is no
raster end a run before it has touched anything.  Otherwise the run writes the files of the
output and makes the directories that these are in.  Everything else stays as it is, wherever
the run ends and whichever call of the disk fails.

## Main definitions

* `Disk.RunEnds` — how a run ends.
* `MayWrite`, `MayMake` — the paths of the files that a run may write, and of the directories
  that it may make.
* `IsRefused` — a run that has ended before its output.
* `Disk.LeavesRest` — what a run leaves of a disk.

## Main results

* `Disk.ensures_runCommandLine` — a run ends with what has come of its conversion.
* `Disk.frame_runCommandLine` — **a run touches nothing but its output.**
-/

namespace BlockExtent

open FileSystem (ChangesOnly)

variable {σ : Type}

/-! ### How a run ends -/

/-- How the run of a command line ends. -/
inductive Disk.RunEnds (disk : Disk σ) (arguments : List String) (s₀ : σ)
    (result : Except Failure Reply) (s : σ) : Prop where
  /-- The arguments make no sense. -/
  | usage (hresult : result = .ok { status := usageStatus, output := usage ++ "\n" })
      (hfiles : disk.files s = disk.files s₀)
  /-- The level that is asked for is not an integer. -/
  | level (argument : String) (hresult : result = .error (.levelNotAnInteger argument))
      (hfiles : disk.files s = disk.files s₀)
  /-- There is no driver or no raster. -/
  | refused (cause : Failure) (hresult : result = .error cause) (hcause : cause.IsOfOpening)
      (hfiles : disk.files s = disk.files s₀)
  /-- A raster has been opened, and its levels have been written up to a failure. -/
  | writing (settings : Settings) (raster : GeoTiffRaster)
      (hparse : Request.parse arguments = .ok (.convert settings))
      (hraster : disk.opened settings.input s₀ = .ok raster)
      (hends : disk.StepEnds settings raster s₀ (fun reply _ => reply.status = successStatus)
        result s)

/-- The only failure of reading the arguments is a level that is not an integer. -/
theorem Request.parseFrom_eq_error {draft : Draft} {arguments : List String} {cause : Failure}
    (h : parseFrom draft arguments = .error cause) :
    ∃ argument, cause = .levelNotAnInteger argument := by
  fun_induction parseFrom draft arguments with
  | case1 | case2 | case4 => cases h
  | case3 draft value rest ih => exact ih h
  | case5 draft value rest failure hlevel =>
    cases h
    unfold levelOf at hlevel
    split at hlevel
    · cases hlevel
    · cases hlevel
      exact ⟨value, rfl⟩
  | case6 draft value rest choice hlevel ih => exact ih h
  | case7 | case10 => cases h
  | case8 => rename_i ih; exact ih h
  | case9 => rename_i ih; exact ih h

namespace Disk

/-- A run ends with what has come of its conversion. -/
theorem ensures_runCommandLine (disk : Disk σ) (arguments : List String) (s₀ : σ) :
    Run.Ensures (runCommandLine (Access.builtIn disk.store) arguments) s₀
      (disk.RunEnds arguments s₀) := by
  unfold runCommandLine
  have hrequest : Run.Ensures (Run.ofExcept id (Request.parse arguments)) s₀
      fun result s => result = Request.parse arguments ∧ s = s₀ := by
    refine Run.ensures_ofExcept ⟨?_, rfl⟩
    cases Request.parse arguments <;> rfl
  refine hrequest.bind ?_ ?_
  swap
  · rintro cause s ⟨hparse, rfl⟩
    obtain ⟨argument, rfl⟩ := Request.parseFrom_eq_error hparse.symm
    exact .level argument rfl rfl
  rintro request s ⟨hparse, rfl⟩
  cases request with
  | help => exact Run.ensures_pure (.usage rfl rfl)
  | convert settings =>
    refine Run.Ensures.bind (disk.ensures_convert settings s) ?_ ?_
    · intro written s₁ hends
      cases hends with
      | refused cause hresult => cases hresult
      | writing raster hraster hends =>
        refine Run.ensures_of_exec (fun events => ⟨_, rfl⟩) ?_
        exact .writing settings raster hparse.symm hraster ⟨hends.1, rfl⟩
    · intro cause s₁ hends
      cases hends with
      | refused cause hresult hcause hfiles =>
        cases hresult
        exact .refused _ rfl hcause hfiles
      | writing raster hraster hends => exact .writing settings raster hparse.symm hraster hends

end Disk

/-! ### What a run leaves -/

/-- The paths of the files that a run may write: the output when it has an extension, and else
the files in it of the levels that are asked for and that the raster has. -/
def MayWrite (fs : FileSystem) (arguments : List String) (path : String) : Prop :=
  ∃ settings content raster, Request.parse arguments = .ok (.convert settings)
    ∧ fs.find settings.input = .ok (.file content)
    ∧ GeoTiffRaster.readSource settings.input (.ofFile content) = .ok raster
    ∧ settings.WritesAt raster path

/-- The paths of the directories that a run may make: the output when it has no extension, and
those above it. -/
def MayMake (arguments : List String) (path : String) : Prop :=
  ∃ settings, Request.parse arguments = .ok (.convert settings) ∧ settings.MakesAt path

/-- The failures that only come before the output. -/
def Failure.IsRefusal : Failure → Prop
  | .levelNotAnInteger _ | .unknownExtension _ | .decode _ | .noFullImage _ | .driverNotBuiltIn _ =>
    True
  | _ => False

/-- A run has ended before its output: by the usage text, by a failure that only comes before
it, or since the input cannot be opened. -/
inductive IsRefused (disk : Disk σ) (arguments : List String) (s₀ : σ) :
    Except Failure Reply → Prop
  | usage (output : String) : IsRefused disk arguments s₀ (.ok { status := 2, output })
  | failure {cause : Failure} (hcause : cause.IsRefusal) :
      IsRefused disk arguments s₀ (.error cause)
  | input {settings : Settings} {cause : Failure} (result : Except Failure Reply)
      (hparse : Request.parse arguments = .ok (.convert settings))
      (hopened : disk.opened settings.input s₀ = .error cause) :
      IsRefused disk arguments s₀ result

/-- What a run leaves of the files that there were before it. -/
structure Disk.LeavesRest (disk : Disk σ) (arguments : List String) (s₀ : σ)
    (result : Except Failure Reply) (s : σ) : Prop where
  /-- Files and directories stay what they are. -/
  grows : FileSystem.Grows (disk.files s₀) (disk.files s)
  /-- A file that is there has been there with the same bytes, or may have been written. -/
  file : ∀ location content, (disk.files s).lookup location = some (.file content) →
    (disk.files s₀).lookup location = some (.file content)
      ∨ ∃ path, MayWrite (disk.files s₀) arguments path
        ∧ (disk.files s).locate path = .ok location
  /-- A directory that is there has been there, or may have been made. -/
  directory : ∀ location, (disk.files s).lookup location = some .directory →
    (disk.files s₀).lookup location = some .directory
      ∨ ∃ path, MayMake arguments path ∧ (disk.files s).locate path = .ok location
  /-- A path leads to the same bytes as before, be it that of the input, unless a file has been
  written there. -/
  find : ∀ path content, (disk.files s₀).find path = .ok (.file content) →
    (∀ written, MayWrite (disk.files s₀) arguments written →
      (disk.files s).locate written ≠ (disk.files s).locate path) →
    (disk.files s).find path = .ok (.file content)
  /-- A run that has ended before its output has touched nothing. -/
  untouched : IsRefused disk arguments s₀ result → disk.files s = disk.files s₀

namespace Disk

variable {disk : Disk σ} {arguments : List String} {s₀ s : σ} {result : Except Failure Reply}

/-- A failure of writing levels does not come before the output. -/
theorem not_isRefusal_of_isOfWriting {cause : Failure} {choice : LevelChoice}
    (h : cause.IsOfWriting choice) : ¬ cause.IsRefusal := by
  cases cause <;> first | exact h.elim | exact id

/-- The changes of a run are those that it may make. -/
theorem RunEnds.changesOnly (h : disk.RunEnds arguments s₀ result s) :
    ChangesOnly (MayWrite (disk.files s₀) arguments) (MayMake arguments) (disk.files s₀)
      (disk.files s) := by
  cases h with
  | usage _ hfiles | level _ _ hfiles | refused _ _ _ hfiles =>
    rw [hfiles]
    exact .refl _ _ _
  | writing settings raster hparse hraster hends =>
    obtain ⟨content, hfind, hread⟩ := opened_eq_ok hraster
    exact hends.1.mono (fun path hpath => ⟨settings, content, raster, hparse, hfind, hread, hpath⟩)
      fun path hpath => ⟨settings, hparse, hpath⟩

/-- A run that has ended before its output has touched nothing. -/
theorem RunEnds.files_eq (h : disk.RunEnds arguments s₀ result s)
    (hrefused : IsRefused disk arguments s₀ result) : disk.files s = disk.files s₀ := by
  cases h with
  | usage _ hfiles | level _ _ hfiles | refused _ _ _ hfiles => exact hfiles
  | writing settings raster hparse hraster hends =>
    exfalso
    cases hrefused with
    | usage output => cases hends.2
    | failure hcause => exact not_isRefusal_of_isOfWriting hends.2 hcause
    | input _ hparse' hopened =>
      rw [hparse] at hparse'
      cases hparse'
      rw [hraster] at hopened
      cases hopened

/-- **A run touches nothing but its output**, on any disk and however it ends. -/
theorem frame_runCommandLine (disk : Disk σ) (arguments : List String) (s₀ : σ) :
    Run.Ensures (runCommandLine (Access.builtIn disk.store) arguments) s₀
      (disk.LeavesRest arguments s₀) := by
  refine (disk.ensures_runCommandLine arguments s₀).mono fun result s hends => ?_
  have hchanges := hends.changesOnly
  refine ⟨hchanges.grows, ?_, ?_, ?_, hends.files_eq⟩
  · intro location content hfile
    cases hchanges.changeAt location with
    | unchanged hlookup => exact .inl (hlookup.symm.trans hfile)
    | written path _ hpath hlocate _ _ => exact .inr ⟨path, hpath, hlocate⟩
    | made _ _ _ _ hlookup =>
      rw [hlookup] at hfile
      cases hfile
  · intro location hdirectory
    cases hchanges.changeAt location with
    | unchanged hlookup => exact .inl (hlookup.symm.trans hdirectory)
    | written _ _ _ _ _ hlookup =>
      rw [hlookup] at hdirectory
      cases hdirectory
    | made path hpath hlocate _ _ => exact .inr ⟨path, hpath, hlocate⟩
  · intro path content hfind hapart
    obtain ⟨location, hfile, hcontent⟩ := FileSystem.IsFileAt.of_find hfind
    have hfile' := hfile.mono hchanges.grows
    refine hfile'.find ?_
    cases hchanges.changeAt location with
    | unchanged hlookup => exact hlookup.trans hcontent
    | written written _ hwritten hlocate _ _ =>
      exact absurd (hlocate.trans hfile'.locate_eq.symm) (hapart written hwritten)
    | made _ _ _ hplace _ =>
      rw [hcontent] at hplace
      cases hplace

/-- Without an input the output is not emptied. -/
theorem frame_runCommandLine_missing :
    ((runCommandLine (Access.builtIn FileSystem.disk.store)
      ["missing.tif", "out.json", "-f", "GeoJSON"]).outcome
        GeoJson.Dataset.staleFile).2 = GeoJson.Dataset.staleFile := by
  have hparse : Request.parse ["missing.tif", "out.json", "-f", "GeoJSON"]
      = .ok (.convert ⟨"missing.tif", "out.json", some "GeoJSON", .all⟩) := rfl
  have hopened : FileSystem.disk.opened "missing.tif" GeoJson.Dataset.staleFile
      = .error (.file .notFound) := rfl
  have hframe := frame_runCommandLine FileSystem.disk ["missing.tif", "out.json", "-f", "GeoJSON"]
    GeoJson.Dataset.staleFile []
  exact hframe.untouched (.input _ hparse hopened)

end Disk

end BlockExtent
