import BlockExtent.CommandLine.Program
import BlockExtent.Proofs.Conversion.Reports

/-!
# What the program answers

The program tells by its exit status how its command line has ended, and shows the reason on
one of its two outputs: the usage text on the standard output, or a failure as the last event
on the standard error output.  A program that succeeds prints nothing, unless it has to warn of
a rotated transform.

## Main definitions

* `shownText` — the lines of events.
* `CommandLineReports` — how a command line ends, and what is shown of it.
* `TellsOfFailure`, `WarnsOfRotation` — events that tell of a failure or of a rotated transform.
* `Disk.Answers` — what the program answers.

## Main results

* `reports_runCommandLine` — how a command line ends.
* `Disk.answers_program` — **what the program answers**, on any disk.
-/

namespace BlockExtent

variable {σ : Type}

/-- The lines of events. -/
def shownText (events : List Event) : List String :=
  events.flatMap fun e => (e.line.toList.splitOn '\n').map String.ofList

/-- The line of a failure is its message, of which controls are made visible. -/
theorem line_failureEvent (cause : Failure) :
    (failureEvent cause).line = "ERROR " ++ visibleControls cause.message := rfl

/-- The line of the warning of a rotated transform ends in the rotation terms. -/
theorem line_rotationWarning (t : Geotransform Float) :
    (rotationWarning t).line
      = "WARN geotransform is rotated, overview block extents ignore rotation row_rotation="
        ++ numberText t.rowRotation ++ " col_rotation=" ++ numberText t.columnRotation := by
  have hmessage : visibleControls "geotransform is rotated, overview block extents ignore rotation"
      = "geotransform is rotated, overview block extents ignore rotation" := by decide +kernel
  have hstart : "WARN geotransform is rotated, overview block extents ignore rotation row_rotation="
      = "WARN" ++ " " ++ "geotransform is rotated, overview block extents ignore rotation" ++ " "
        ++ "row_rotation" ++ "=" := rfl
  have hmiddle : " col_rotation=" = " " ++ "col_rotation" ++ "=" := rfl
  change "WARN" ++ " "
      ++ visibleControls "geotransform is rotated, overview block extents ignore rotation" ++ " "
      ++ ("row_rotation" ++ "=" ++ numberText t.rowRotation) ++ " "
      ++ ("col_rotation" ++ "=" ++ numberText t.columnRotation) = _
  rw [hmessage, hstart, hmiddle]
  simp only [String.append_assoc]

/-! ### Command lines -/

/-- How a command line ends by what its arguments ask for, and what is shown of it. -/
def CommandLineReports (store : FileStore (StateM σ)) (s₀ : σ) (request : Except Failure Request)
    (result : Except Failure Reply) (shown : List Event) : Prop :=
  match request with
  | .error cause => result = .error cause ∧ shown = []
  | .ok .help => result = .ok { status := usageStatus, output := usage ++ "\n" } ∧ shown = []
  | .ok (.convert settings) => (∀ e ∈ shown, e.severity = .warn)
    ∧ ∀ reply, result = .ok reply → reply = { status := successStatus, output := "" }
      ∧ ∃ raster, ((Access.openGeoTiff store settings.input).outcome s₀).1.1 = .ok raster
        ∧ shown = rotationWarnings raster.geotransform
          (settings.choice.levels raster.overviewCount)

/-- How a command line ends. -/
theorem reports_runCommandLine (store : FileStore (StateM σ)) (arguments : List String) (s₀ : σ) :
    Run.Reports EventFilter.standard.permits (runCommandLine (Access.builtIn store) arguments) s₀
      fun result shown _ =>
        CommandLineReports store s₀ (Request.parse arguments) result shown := by
  unfold runCommandLine
  rcases Request.parse arguments with cause | settings | _
  · exact ⟨.error cause, [], s₀, Run.endsWith_of_exec fun _ => rfl, rfl, rfl⟩
  · change Run.Reports _ (pure (Request.convert settings) >>= _) s₀ _
    rw [pure_bind]
    dsimp only
    refine (reports_convert store settings s₀).bind ?_ ?_
    · rintro written shown s ⟨hwarn, hwritten⟩
      -- the end of a conversion is reported as news
      refine ⟨_, [], s, fun events => ⟨_, rfl, rfl⟩, ?_⟩
      dsimp only
      rw [List.append_nil]
      refine ⟨hwarn, ?_⟩
      rintro reply ⟨⟩
      exact ⟨rfl, hwritten written rfl⟩
    · rintro cause shown s ⟨hwarn, -⟩
      exact ⟨hwarn, fun _ hreply => by cases hreply⟩
  · exact ⟨_, [], s₀, Run.endsWith_of_exec fun _ => rfl, rfl, rfl⟩

/-! ### The program -/

/-- An event tells of a failure: it is an error whose message is that of the failure. -/
structure TellsOfFailure (e : Event) (cause : Failure) : Prop where
  severity : e.severity = .error
  message : e.message = cause.message
  line : e.line = "ERROR " ++ visibleControls cause.message

/-- An event warns of the rotation terms of a transform. -/
structure WarnsOfRotation (e : Event) (t : Geotransform Float) : Prop where
  severity : e.severity = .warn
  message : e.message = "geotransform is rotated, overview block extents ignore rotation"
  line : e.line
    = "WARN geotransform is rotated, overview block extents ignore rotation row_rotation="
      ++ numberText t.rowRotation ++ " col_rotation=" ++ numberText t.columnRotation

theorem tellsOfFailure_failureEvent (cause : Failure) :
    TellsOfFailure (failureEvent cause) cause :=
  ⟨rfl, rfl, line_failureEvent cause⟩

theorem warnsOfRotation_rotationWarning (t : Geotransform Float) :
    WarnsOfRotation (rotationWarning t) t :=
  ⟨rfl, rfl, line_rotationWarning t⟩

namespace Disk

/-- What the program answers, when its command line ends with a result. -/
structure Answers (disk : Disk σ) (arguments : List String) (s₀ : σ)
    (ended : Except Failure Reply) (answer : ProgramResult) : Prop where
  /-- The exit status of arguments that make no sense. -/
  status_eq_two_iff : answer.status = 2 ↔ Request.parse arguments = .ok .help
  /-- They are answered by the usage text. -/
  usage : answer.status = 2 →
    answer.output =
        "Usage:  tile_extent_from_raster [-f format] [-ovr level] <in-raster> <out-vector>\n"
      ∧ answer.errorLines = []
  /-- The exit status of failure. -/
  status_eq_one_iff : answer.status = 1 ↔ ∃ cause, ended = .error cause
  /-- A failure is the last event that is shown, after warnings. -/
  failure : answer.status = 1 → answer.output = ""
    ∧ ∃ cause warnings last, ended = .error cause ∧ (∀ e ∈ warnings, e.severity = .warn)
      ∧ TellsOfFailure last cause ∧ answer.errorLines = shownText (warnings ++ [last])
  /-- Otherwise a raster has been converted, and nothing is printed but a warning of its
  transform. -/
  success : answer.status ≠ 2 → answer.status ≠ 1 → answer.status = 0 ∧ answer.output = ""
    ∧ ∃ settings content raster, Request.parse arguments = .ok (.convert settings)
      ∧ (disk.files s₀).find settings.input = .ok (.file content)
      ∧ GeoTiffRaster.readSource settings.input (.ofFile content) = .ok raster
      ∧ (RotationMatters raster.geotransform (settings.choice.selected raster.overviewCount)
          ∧ (∃ warning, WarnsOfRotation warning raster.geotransform
            ∧ answer.errorLines = shownText [warning])
        ∨ ¬ RotationMatters raster.geotransform (settings.choice.selected raster.overviewCount)
          ∧ answer.errorLines = [])

/-- What the program answers is settled by how its command line ends, and by what is shown of
it. -/
theorem program_fst {store : FileStore (StateM σ)} {arguments : List String} {s₀ s : σ}
    {result : Except Failure Reply} {shown : List Event}
    (h : Run.EndsWith EventFilter.standard.permits
      (runCommandLine (Access.builtIn store) arguments) s₀ result shown s) :
    (program store none arguments s₀).1 =
      match result with
      | .ok reply =>
        { status := reply.status, output := reply.output, errorLines := shownText shown }
      | .error cause =>
        { status := failureStatus, output := ""
          errorLines := shownText (shown ++ [failureEvent cause]) } := by
  have hbuiltIn : Run.EndsWith EventFilter.standard.permits
      (Access.reportBuiltIn : Run (StateM σ) Unit) s₀ (.ok ()) [] s₀ := Run.endsWith_record _ s₀
  have hprogram : Run.EndsWith EventFilter.standard.permits
      (Access.reportBuiltIn >>= fun _ => runCommandLine (Access.builtIn store) arguments) s₀ result
      shown s := hbuiltIn.bind_ok h
  obtain ⟨added, hrun, rfl⟩ := hprogram []
  rw [← Run.outcome_eq_exec] at hrun
  unfold program
  rw [stateM_bind_apply, hrun]
  cases result with
  | ok reply => rfl
  | error cause =>
    change resultOf .standard (.error cause) added = _
    unfold resultOf shownLines shownText
    dsimp only
    rw [List.filter_append]
    rfl

variable {disk : Disk σ} {arguments : List String} {s₀ : σ} {shown : List Event}

/-- The usage text is all that is printed of arguments that make no sense. -/
theorem answers_usage (hparse : Request.parse arguments = .ok .help) :
    disk.Answers arguments s₀ (.ok { status := usageStatus, output := BlockExtent.usage ++ "\n" })
      { status := usageStatus, output := BlockExtent.usage ++ "\n"
        errorLines := shownText [] } where
  status_eq_two_iff := iff_of_true rfl hparse
  usage _ := ⟨rfl, rfl⟩
  status_eq_one_iff := iff_of_false (show usageStatus ≠ 1 by decide) (by simp)
  failure hstatus := absurd hstatus (show usageStatus ≠ 1 by decide)
  success hstatus := absurd rfl hstatus

/-- A failure is shown after the warnings. -/
theorem answers_error (hhelp : Request.parse arguments ≠ .ok .help) (cause : Failure)
    (hwarn : ∀ e ∈ shown, e.severity = .warn) :
    disk.Answers arguments s₀ (.error cause)
      { status := failureStatus, output := ""
        errorLines := shownText (shown ++ [failureEvent cause]) } where
  status_eq_two_iff := iff_of_false (show failureStatus ≠ 2 by decide) hhelp
  usage hstatus := absurd hstatus (show failureStatus ≠ 2 by decide)
  status_eq_one_iff := iff_of_true rfl ⟨cause, rfl⟩
  failure _ := ⟨rfl, cause, shown, _, rfl, hwarn, tellsOfFailure_failureEvent cause, rfl⟩
  success _ hstatus := absurd rfl hstatus

/-- The warning of a rotated transform is all that is printed of a conversion that succeeds. -/
theorem answers_success {settings : Settings} {raster : GeoTiffRaster}
    (hparse : Request.parse arguments = .ok (.convert settings))
    (hopened : disk.opened settings.input s₀ = .ok raster) :
    disk.Answers arguments s₀ (.ok { status := successStatus, output := "" })
      { status := successStatus, output := ""
        errorLines := shownText (rotationWarnings raster.geotransform
          (settings.choice.levels raster.overviewCount)) } where
  status_eq_two_iff := iff_of_false (show successStatus ≠ 2 by decide) (by simp [hparse])
  usage hstatus := absurd hstatus (show successStatus ≠ 2 by decide)
  status_eq_one_iff := iff_of_false (show successStatus ≠ 1 by decide) (by simp)
  failure hstatus := absurd hstatus (show successStatus ≠ 1 by decide)
  success _ _ := by
    obtain ⟨content, hfind, hraster⟩ := opened_eq_ok hopened
    refine ⟨rfl, rfl, settings, content, raster, hparse, hfind, hraster, ?_⟩
    rw [settings.choice.levels_eq_selected (GeoTiffRaster.overviewCount_lt hraster)]
    by_cases hmatters : RotationMatters raster.geotransform
        (settings.choice.selected raster.overviewCount)
    · exact .inl ⟨hmatters, rotationWarning raster.geotransform,
        warnsOfRotation_rotationWarning raster.geotransform,
        congrArg shownText (rotationWarnings_of_matters hmatters)⟩
    · exact .inr ⟨hmatters, congrArg shownText (rotationWarnings_of_not_matters hmatters)⟩

/-- **What the program answers**, on any disk. -/
theorem answers_program (disk : Disk σ) (arguments : List String) (s₀ : σ) :
    disk.Answers arguments s₀
      ((runCommandLine (Access.builtIn disk.store) arguments).outcome s₀).1.1
      (program disk.store none arguments s₀).1 := by
  obtain ⟨result, shown, s, hends, hreports⟩ := reports_runCommandLine disk.store arguments s₀
  rw [hends.result_eq, program_fst hends]
  unfold CommandLineReports at hreports
  split at hreports
  · rename_i cause hparse
    obtain ⟨rfl, rfl⟩ := hreports
    exact answers_error (by simp [hparse]) cause (List.forall_mem_nil _)
  · rename_i hparse
    obtain ⟨rfl, rfl⟩ := hreports
    exact answers_usage hparse
  · rename_i settings hparse
    obtain ⟨hwarn, hreply⟩ := hreports
    cases result with
    | error cause => exact answers_error (by simp [hparse]) cause hwarn
    | ok reply =>
      obtain ⟨rfl, raster, hopened, rfl⟩ := hreply reply rfl
      exact answers_success hparse hopened

end Disk

end BlockExtent
