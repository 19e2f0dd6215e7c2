import BlockExtent.Log.Filter
import BlockExtent.Proofs.Conversion.Frame
import BlockExtent.Proofs.Number.Bits
import BlockExtent.Proofs.Run.Reports

/-!
# What a conversion reports

Of the events of a conversion those are shown that may be a sign of something wrong.  There are
two of them: that a driver has been chosen among several, and that the transform of the raster
is rotated.  No other step of a conversion shows anything, be it that it succeeds or fails.

## Main definitions

* `rotationWarnings` — the warning of a rotated transform, if it matters.
* `LevelChoice.selected` — the levels that a choice selects.
* `RotationMatters` — when it does.
* `ConversionReports` — what is shown of a conversion.

## Main results

* `isQuiet_openGeoTiff`, `isQuiet_writeEach` — reading and writing show nothing.
* `reports_driverOf` — settling the driver shows warnings, and none for GeoJSON.
* `reports_writeChosen` — writing the chosen levels shows the warning of a rotated transform.
* `reports_convert` — **what is shown of a conversion.**
-/

namespace BlockExtent

open GeoJson

variable {σ : Type}

/-! ### Reading -/

/-- Opening a raster shows nothing. -/
theorem isQuiet_openGeoTiff (store : FileStore (StateM σ)) (path : String) :
    Run.IsQuiet EventFilter.standard.permits (Access.openGeoTiff store path) := by
  have hpages : ∀ chain : Tiff.Chain Page,
      Run.IsQuiet EventFilter.standard.permits
        (GeoTiffRaster.reportPages chain : Run (StateM σ) Unit) := by
    intro chain
    unfold GeoTiffRaster.reportPages
    refine Run.IsQuiet.bind (Run.isQuiet_forM_record (fun _ => rfl) _) fun _ => ?_
    cases chain.fault with
    | some e => exact Run.isQuiet_throw _
    | none => exact Run.isQuiet_record rfl
  unfold Access.openGeoTiff
  refine (Run.isQuiet_attempt _ _).bind fun found => ?_
  cases found with
  | unreadable cause => exact Run.isQuiet_throw _
  | bytes content =>
    dsimp only
    unfold GeoTiffRaster.read
    refine (hpages _).bind fun _ => (Run.isQuiet_ofExcept _ _).bind fun raster => ?_
    exact Run.IsQuiet.bind (Run.isQuiet_record rfl) fun _ => Run.isQuiet_pure _

/-! ### Writing -/

section Writing

variable (store : FileStore (StateM σ))

theorem isQuiet_create (path : String) :
    Run.IsQuiet EventFilter.standard.permits (Dataset.create store path) := by
  unfold Dataset.create
  split
  · exact (Run.isQuiet_attempt _ _).bind fun _ => Run.isQuiet_pure _
  · exact (Run.isQuiet_attempt _ _).bind fun _ => Run.isQuiet_pure _

theorem isQuiet_writeCollection (handle : store.Handle) (name : String)
    (reference : Option SpatialReference) (blocks : List (BlockRectangle Float)) :
    Run.IsQuiet EventFilter.standard.permits
      (writeCollection store handle name reference blocks) := by
  unfold writeCollection
  exact (Run.isQuiet_attempt _ _).bind fun _ => Run.isQuiet_pure _

theorem isQuiet_writeLayer (dataset : Dataset store.Handle) (name : String)
    (reference : Option SpatialReference) (blocks : List (BlockRectangle Float)) :
    Run.IsQuiet EventFilter.standard.permits
      (dataset.writeLayer store name reference blocks) := by
  have hwrite := fun handle => isQuiet_writeCollection store handle name reference blocks
  unfold Dataset.writeLayer
  cases dataset.target with
  | file path handle =>
    dsimp only
    split
    · exact Run.IsQuiet.bind (Run.isQuiet_throw _) fun _ =>
        (hwrite handle).bind fun _ => Run.isQuiet_pure _
    · exact (hwrite handle).bind fun _ => Run.isQuiet_pure _
  | directory path =>
    refine (Run.isQuiet_attempt _ _).bind fun handle => ?_
    exact (hwrite handle).bind fun _ => Run.isQuiet_pure _

theorem isQuiet_close (dataset : Dataset store.Handle) :
    Run.IsQuiet EventFilter.standard.permits (dataset.close store) := by
  unfold Dataset.close
  split
  · dsimp only
    split
    · exact (Run.isQuiet_attempt _ _).bind fun _ => Run.isQuiet_attempt _ _
    · exact Run.isQuiet_attempt _ _
  · exact Run.isQuiet_pure _

variable (raster : GeoTiffRaster) (frame : RasterFrame)

/-- Writing a level shows nothing, be it there or not. -/
theorem isQuiet_writeLevel (dataset : Dataset store.Handle) (level : Int) :
    Run.IsQuiet EventFilter.standard.permits
      (Conversion.writeLevel (Access.builtIn store) raster frame dataset level) := by
  cases level with
  | negSucc n => exact Run.IsQuiet.bind (Run.isQuiet_pure _) fun _ => Run.isQuiet_throw _
  | ofNat index =>
    unfold Conversion.writeLevel
    refine Run.IsQuiet.bind (Run.isQuiet_ofExcept id (raster.level index)) fun level => ?_
    refine Run.IsQuiet.bind (isQuiet_writeLayer store dataset _ _ _) fun written => ?_
    exact Run.IsQuiet.bind (Run.isQuiet_record rfl) fun _ => Run.isQuiet_pure _

/-- **Writing levels shows nothing.** -/
theorem isQuiet_writeEach (dataset : Dataset store.Handle) (levels : List Int) :
    Run.IsQuiet EventFilter.standard.permits
      (Conversion.writeEach (Access.builtIn store) raster frame dataset levels) := by
  induction levels generalizing dataset with
  | nil => exact Run.isQuiet_pure _
  | cons level levels ih =>
    change Run.IsQuiet _ (Conversion.writeLevel (Access.builtIn store) raster frame dataset level
      >>= _)
    refine (isQuiet_writeLevel store raster frame dataset level).bind fun written => ?_
    exact (ih written.2).bind fun _ => Run.isQuiet_pure _

end Writing

/-! ### Warnings -/

/-- A choice between several drivers is shown as a warning. -/
theorem reports_reportAmbiguity (path first : String) (others : List String) (s : σ) :
    Run.Reports EventFilter.standard.permits (reportAmbiguity path first (first :: others)) s
      fun result shown s' => result = .ok () ∧ s' = s ∧ (∀ e ∈ shown, e.severity = .warn)
        ∧ (others = [] → shown = []) := by
  unfold reportAmbiguity
  split
  · rename_i hseveral
    refine Run.reports_record ⟨rfl, rfl, List.forall_mem_singleton.mpr rfl, ?_⟩
    rintro rfl
    exact absurd hseveral.1 (by simp)
  · exact Run.reports_pure ⟨rfl, rfl, List.forall_mem_nil _, fun _ => rfl⟩

/-- What is shown of settling the driver: warnings at most, and nothing if the driver is that of
GeoJSON. -/
def DriverReports (result : Except Failure String) (shown : List Event) : Prop :=
  (∀ e ∈ shown, e.severity = .warn)
    ∧ ∀ driver, result = .ok driver → Access.isGeoJson driver = true → shown = []

theorem driverReports_nil (result : Except Failure String) : DriverReports result [] :=
  ⟨List.forall_mem_nil _, fun _ _ _ => rfl⟩

/-- **Settling the driver shows warnings at most**, and nothing if it is that of GeoJSON. -/
theorem reports_driverOf (settings : Settings) (s : σ) :
    Run.Reports EventFilter.standard.permits (driverOf settings) s
      fun result shown s' => s' = s ∧ DriverReports result shown := by
  unfold driverOf
  cases settings.format with
  | some driver => exact Run.reports_pure ⟨rfl, driverReports_nil _⟩
  | none =>
    dsimp only
    unfold chooseDriver
    split
    · exact Run.reports_pure ⟨rfl, driverReports_nil _⟩
    cases hdrivers : driversFor .vector settings.output with
    | nil =>
      cases driverExtension? settings.output with
      | none => exact Run.reports_pure ⟨rfl, driverReports_nil _⟩
      | some extension => exact Run.reports_throw ⟨rfl, driverReports_nil _⟩
    | cons first others =>
      refine (reports_reportAmbiguity settings.output first others s).bind ?_ ?_
      · rintro ⟨⟩ shown s₁ ⟨-, rfl, hwarn, hsingle⟩
        -- the inferred driver is reported as a detail
        refine ⟨.ok first, [], s₁, fun events => ⟨_, rfl, rfl⟩, rfl, ?_⟩
        rw [List.append_nil]
        refine ⟨hwarn, ?_⟩
        rintro driver ⟨⟩ hgeoJson
        exact hsingle (driversFor_isGeoJson hdrivers hgeoJson).1
      · rintro cause shown s₁ ⟨hresult, -⟩
        cases hresult

/-- The warning of a rotated transform. -/
def rotationWarning (t : Geotransform Float) : Event where
  severity := .warn
  component := .conversion
  message := "geotransform is rotated, overview block extents ignore rotation"
  fields := [("row_rotation", .number t.rowRotation), ("col_rotation", .number t.columnRotation)]

/-- The warning of a rotated transform, if there is a level that it matters to. -/
def rotationWarnings (t : Geotransform Float) (levels : List Int) : List Event :=
  if t.isRotated = true ∧ ∃ level ∈ levels, level ≠ 0 then [rotationWarning t] else []

/-- A transform is rotated if one of its rotation terms is not zero. -/
theorem Geotransform.isRotated_iff (t : Geotransform Float) :
    t.isRotated = true
      ↔ ¬ Binary64.IsZero t.rowRotation ∨ ¬ Binary64.IsZero t.columnRotation := by
  have hterm : ∀ x : Float, (x != Float.ofNat 0) = true ↔ ¬ Binary64.IsZero x := by
    intro x
    rw [← Binary64.beq_zero_iff, bne, Bool.not_eq_true', Bool.not_eq_true]
  rw [← hterm, ← hterm, ← Bool.or_eq_true]
  rfl

/-- The levels that a choice selects among those of a raster: all of them, or the one that is
asked for. -/
def LevelChoice.selected : LevelChoice → (overviews : ℕ) → List ℤ
  | .all, overviews => (List.range (overviews + 1)).map Int.ofNat
  | .single level, _ => [level]

theorem LevelChoice.levels_eq_selected (choice : LevelChoice) {overviews : ℕ}
    (h : overviews < 2 ^ 63) : choice.levels overviews = choice.selected overviews := by
  cases choice with
  | all => exact levels_all h
  | single level => rfl

/-- A rotation term differs from zero, or is no number at all, and there is a level that it
matters to. -/
def RotationMatters (t : Geotransform Float) (levels : List Int) : Prop :=
  (¬ Binary64.IsZero t.rowRotation ∨ ¬ Binary64.IsZero t.columnRotation)
    ∧ ∃ level ∈ levels, level ≠ 0

theorem rotationWarnings_of_matters {t : Geotransform Float} {levels : List Int}
    (h : RotationMatters t levels) : rotationWarnings t levels = [rotationWarning t] :=
  if_pos (h.imp_left t.isRotated_iff.mpr)

theorem rotationWarnings_of_not_matters {t : Geotransform Float} {levels : List Int}
    (h : ¬ RotationMatters t levels) : rotationWarnings t levels = [] :=
  if_neg (mt (And.imp_left t.isRotated_iff.mp) h)

theorem warn_of_mem_rotationWarnings {t : Geotransform Float} {levels : List Int} {e : Event}
    (h : e ∈ rotationWarnings t levels) : e.severity = .warn := by
  unfold rotationWarnings at h
  split at h
  · rw [List.mem_singleton.mp h]
    rfl
  · cases h

/-- A rotated transform is warned of. -/
theorem exec_warnOfRotation_eq (t : Geotransform Float) (levels : List Int) (events : List Event)
    (s : σ) :
    (warnOfRotation t levels).exec events s
      = ((.ok (), events ++ rotationWarnings t levels), s) := by
  have hany : levels.any (· ≠ 0) = true ↔ ∃ level ∈ levels, level ≠ 0 := by
    simp only [List.any_eq_true, decide_eq_true_eq]
  unfold warnOfRotation rotationWarnings
  by_cases hrotated : t.isRotated = true ∧ levels.any (· ≠ 0) = true
  · rw [if_pos hrotated, if_pos (hrotated.imp_right hany.mp)]
    rfl
  · rw [if_neg hrotated, if_neg (mt (And.imp_right hany.mpr) hrotated), List.append_nil]
    rfl

/-- A rotated transform is shown as a warning. -/
theorem reports_warnOfRotation (t : Geotransform Float) (levels : List Int) (s : σ) :
    Run.Reports EventFilter.standard.permits (warnOfRotation t levels) s
      fun _ shown s' => shown = rotationWarnings t levels ∧ s' = s := by
  refine ⟨.ok (), rotationWarnings t levels, s, fun events => ⟨rotationWarnings t levels, ?_, ?_⟩,
    rfl, rfl⟩
  · exact exec_warnOfRotation_eq t levels events s
  · unfold rotationWarnings
    split <;> rfl

/-- **Writing the chosen levels shows the warning of a rotated transform**, wherever it ends. -/
theorem reports_writeChosen (store : FileStore (StateM σ)) (raster : GeoTiffRaster)
    (dataset : Dataset store.Handle) (choice : LevelChoice) (s : σ) :
    Run.Reports EventFilter.standard.permits
      (writeChosen (Access.builtIn store) raster dataset choice) s fun _ shown _ =>
        shown = rotationWarnings raster.geotransform (choice.levels raster.overviewCount) := by
  have hlevels : Run.Reports EventFilter.standard.permits
      (chosenLevels (Access.builtIn store) raster choice) s fun result shown s' =>
        result = .ok (choice.levels raster.overviewCount) ∧ shown = [] ∧ s' = s := by
    cases choice <;> exact Run.reports_pure ⟨rfl, rfl, rfl⟩
  unfold writeChosen
  refine hlevels.bind ?_ ?_
  swap
  · rintro cause shown s₁ ⟨hresult, -⟩
    cases hresult
  rintro levels shown s₁ ⟨hresult, rfl, rfl⟩
  cases hresult
  change Run.Reports _ (warnOfRotation raster.geotransform (choice.levels raster.overviewCount)
    >>= fun _ => Conversion.writeEach (Access.builtIn store) raster raster.frame dataset
      (choice.levels raster.overviewCount)) s₁ _
  refine (reports_warnOfRotation _ _ s₁).bind ?_ ?_
  · rintro ⟨⟩ shown s₂ ⟨rfl, rfl⟩
    refine ((isQuiet_writeEach store raster raster.frame dataset _).reports s₂).mono ?_
    rintro result later s' ⟨-, rfl⟩
    rw [List.nil_append, List.append_nil]
  · rintro cause shown s₂ ⟨rfl, -⟩
    rfl

/-! ### Conversions -/

/-- What is shown of a conversion: warnings at most, and of one that succeeds nothing but the
warning of a rotated transform. -/
def ConversionReports (store : FileStore (StateM σ)) (settings : Settings) (s₀ : σ)
    (result : Except Failure Written) (shown : List Event) : Prop :=
  (∀ e ∈ shown, e.severity = .warn)
    ∧ ∀ written, result = .ok written → ∃ raster,
      ((Access.openGeoTiff store settings.input).outcome s₀).1.1 = .ok raster
        ∧ shown = rotationWarnings raster.geotransform
          (settings.choice.levels raster.overviewCount)

/-- **What is shown of a conversion.** -/
theorem reports_convert (store : FileStore (StateM σ)) (settings : Settings) (s₀ : σ) :
    Run.Reports EventFilter.standard.permits (convert (Access.builtIn store) settings) s₀
      fun result shown _ => ConversionReports store settings s₀ result shown := by
  have hfailed : ∀ {cause : Failure} {shown : List Event}, (∀ e ∈ shown, e.severity = .warn) →
      ConversionReports store settings s₀ (.error cause) shown :=
    fun hwarn => ⟨hwarn, fun _ hresult => by cases hresult⟩
  unfold convert
  refine (reports_driverOf settings s₀).bind ?_ ?_
  swap
  · rintro cause shown s ⟨-, hwarn, -⟩
    exact hfailed hwarn
  rintro driver shown s ⟨rfl, hwarn, hgeoJson⟩
  refine Run.IsQuiet.bind_reports (isQuiet_openGeoTiff store settings.input) ?_ ?_
  swap
  · intro cause s₁
    rw [List.append_nil]
    exact hfailed hwarn
  intro raster s₁ hraster
  change Run.Reports _ (Access.makeGeoJson store driver settings.output >>= _) _ _
  unfold Access.makeGeoJson
  by_cases hdriver : Access.isGeoJson driver = true
  swap
  · rw [if_neg hdriver]
    refine Run.IsQuiet.bind_reports (Run.isQuiet_throw _) (fun _ _ hresult => by cases hresult) ?_
    intro cause s₂
    rw [List.append_nil]
    exact hfailed hwarn
  -- from here on the driver is that of GeoJSON, and nothing has been shown
  obtain rfl := hgeoJson driver rfl hdriver
  rw [if_pos hdriver]
  simp only [List.nil_append]
  have hnone : ∀ {cause : Failure}, ConversionReports store settings s (.error cause) [] :=
    hfailed (List.forall_mem_nil _)
  refine Run.IsQuiet.bind_reports (isQuiet_create store settings.output) ?_ fun _ _ => hnone
  intro dataset s₂ _
  refine Run.IsQuiet.bind_reports (Run.isQuiet_record rfl) ?_ fun _ _ => hnone
  intro _ s₃ _
  refine (reports_writeChosen store raster dataset settings.choice s₃).bind ?_ ?_
  swap
  · rintro cause shown s₄ rfl
    exact hfailed fun _ => warn_of_mem_rotationWarnings
  rintro ⟨layers, dataset'⟩ shown s₄ rfl
  have hrest : Run.IsQuiet EventFilter.standard.permits
      (dataset'.close store >>= fun _ => (pure { driver, layers } : Run (StateM σ) Written)) :=
    (isQuiet_close store dataset').bind fun _ => Run.isQuiet_pure _
  refine (hrest.reports s₄).mono ?_
  rintro result later s' ⟨-, rfl⟩
  rw [List.append_nil]
  exact ⟨fun _ => warn_of_mem_rotationWarnings, fun _ _ => ⟨raster, hraster, rfl⟩⟩

end BlockExtent
