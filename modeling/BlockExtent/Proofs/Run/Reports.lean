import BlockExtent.Proofs.Run.Execution

/-!
# What runs report

A run adds events to those recorded so far, and neither its result nor the events that it adds
depend on them.  Of the events only those that someone looks for matter, such as those that are
shown.

## Main definitions

* `Run.EndsWith` — how a run ends, with the events of interest that it records.
* `Run.Reports` — a condition on how a run ends and on what it reports.
* `Run.IsQuiet` — a run records no event of interest.

## Main results

* `Run.Reports.bind` — two runs report what each of them does, up to the first failure.
* `Run.IsQuiet.bind`, `Run.IsQuiet.bind_reports` — what comes after a run that is quiet.
* `Run.IsQuiet.reports` — a quiet run ends as it would at the start.
-/

namespace BlockExtent.Run

variable {σ α β ε : Type} {keep : Event → Bool}

/-! ### How a run ends -/

/-- A run ends with a result in a state, and the events of interest that it records on the way
are those of a list, whatever has been recorded before. -/
def EndsWith (keep : Event → Bool) (run : Run (StateM σ) α) (s : σ) (result : Except Failure α)
    (shown : List Event) (s' : σ) : Prop :=
  ∀ events, ∃ added, run.exec events s = ((result, events ++ added), s')
    ∧ added.filter keep = shown

section EndsWith

variable {s s₁ s' : σ} {shown later : List Event} {cause : Failure}

/-- A run that records nothing. -/
theorem endsWith_of_exec {run : Run (StateM σ) α} {result : Except Failure α}
    (h : ∀ events, run.exec events s = ((result, events), s')) :
    EndsWith keep run s result [] s' := by
  intro events
  refine ⟨[], ?_, rfl⟩
  rw [h, List.append_nil]

/-- An event is shown if it is of interest. -/
theorem endsWith_record (e : Event) (s : σ) :
    EndsWith keep (record e) s (.ok ()) ([e].filter keep) s :=
  fun _ => ⟨[e], rfl, rfl⟩

/-- A run goes on after one that succeeds, and the events of both are shown. -/
theorem EndsWith.bind_ok {run : Run (StateM σ) α} {next : α → Run (StateM σ) β} {a : α}
    {result : Except Failure β} (h : EndsWith keep run s (.ok a) shown s₁)
    (hnext : EndsWith keep (next a) s₁ result later s') :
    EndsWith keep (run >>= next) s result (shown ++ later) s' := by
  intro events
  obtain ⟨added, hrun, hadded⟩ := h events
  obtain ⟨others, hrest, hothers⟩ := hnext (events ++ added)
  refine ⟨added ++ others, ?_, ?_⟩
  · rw [exec_bind_of_ok events s next hrun, hrest, List.append_assoc]
  · rw [List.filter_append, hadded, hothers]

/-- Nothing more is recorded after a failure. -/
theorem EndsWith.bind_error {run : Run (StateM σ) α}
    (h : EndsWith keep run s (.error cause) shown s') (next : α → Run (StateM σ) β) :
    EndsWith keep (run >>= next) s (.error cause) shown s' := by
  intro events
  obtain ⟨added, hrun, hadded⟩ := h events
  refine ⟨added, ?_, hadded⟩
  rw [exec_bind, hrun]

/-- A run ends with the result that it has when nothing has been recorded before it. -/
theorem EndsWith.result_eq {run : Run (StateM σ) α} {result : Except Failure α}
    (h : EndsWith keep run s result shown s') : (run.outcome s).1.1 = result := by
  obtain ⟨added, hrun, -⟩ := h []
  rw [outcome_eq_exec, hrun]

end EndsWith

/-! ### Conditions on reports -/

/-- The result of a run, the events of interest that it records and the state after it satisfy a
condition. -/
def Reports (keep : Event → Bool) (run : Run (StateM σ) α) (s : σ)
    (post : Except Failure α → List Event → σ → Prop) : Prop :=
  ∃ result shown s', EndsWith keep run s result shown s' ∧ post result shown s'

section Reports

variable {s : σ} {post : Except Failure α → List Event → σ → Prop}

theorem reports_pure {a : α} (h : post (.ok a) [] s) : Reports keep (pure a) s post :=
  ⟨_, _, _, endsWith_of_exec fun _ => rfl, h⟩

theorem reports_throw {cause : Failure} (h : post (.error cause) [] s) :
    Reports keep (throw cause : Run (StateM σ) α) s post :=
  ⟨_, _, _, endsWith_of_exec fun _ => rfl, h⟩

theorem reports_record {e : Event} {post : Except Failure Unit → List Event → σ → Prop}
    (h : post (.ok ()) ([e].filter keep) s) : Reports keep (record e) s post :=
  ⟨_, _, _, endsWith_record e s, h⟩

/-- A condition may be weakened. -/
theorem Reports.mono {run : Run (StateM σ) α} {post' : Except Failure α → List Event → σ → Prop}
    (h : Reports keep run s post)
    (hpost : ∀ result shown s', post result shown s' → post' result shown s') :
    Reports keep run s post' := by
  obtain ⟨result, shown, s', hends, hrun⟩ := h
  exact ⟨result, shown, s', hends, hpost result shown s' hrun⟩

/-- **Two runs one after the other** report what each of them does.  A failure of the first is
that of both. -/
theorem Reports.bind {run : Run (StateM σ) α} {next : α → Run (StateM σ) β}
    {post' : Except Failure β → List Event → σ → Prop} (h : Reports keep run s post)
    (hok : ∀ a shown s₁, post (.ok a) shown s₁ →
      Reports keep (next a) s₁ fun result later s' => post' result (shown ++ later) s')
    (herror : ∀ cause shown s₁, post (.error cause) shown s₁ → post' (.error cause) shown s₁) :
    Reports keep (run >>= next) s post' := by
  obtain ⟨result, shown, s₁, hends, hrun⟩ := h
  cases result with
  | error cause =>
    exact ⟨.error cause, shown, s₁, hends.bind_error next, herror cause shown s₁ hrun⟩
  | ok a =>
    obtain ⟨result, later, s', hnext, hpost⟩ := hok a shown s₁ hrun
    exact ⟨result, shown ++ later, s', hends.bind_ok hnext, hpost⟩

end Reports

/-! ### Quiet runs -/

/-- A run records no event of interest. -/
def IsQuiet (keep : Event → Bool) (run : Run (StateM σ) α) : Prop :=
  ∀ s, ∃ result s', EndsWith keep run s result [] s'

theorem isQuiet_of_exec {run : Run (StateM σ) α}
    (h : ∀ s, ∃ result s', ∀ events, run.exec events s = ((result, events), s')) :
    IsQuiet keep run := by
  intro s
  obtain ⟨result, s', hexec⟩ := h s
  exact ⟨result, s', endsWith_of_exec hexec⟩

theorem isQuiet_pure (a : α) : IsQuiet keep (pure a : Run (StateM σ) α) :=
  isQuiet_of_exec fun s => ⟨.ok a, s, fun _ => rfl⟩

theorem isQuiet_throw (cause : Failure) : IsQuiet keep (throw cause : Run (StateM σ) α) :=
  isQuiet_of_exec fun s => ⟨.error cause, s, fun _ => rfl⟩

theorem isQuiet_ofExcept (asError : ε → Failure) (result : Except ε α) :
    IsQuiet keep (ofExcept asError result : Run (StateM σ) α) :=
  isQuiet_of_exec fun s => ⟨_, s, fun events => exec_ofExcept events s asError result⟩

theorem isQuiet_attempt (asError : ε → Failure) (effect : StateM σ (Except ε α)) :
    IsQuiet keep (attempt asError effect) :=
  isQuiet_of_exec fun s => ⟨_, _, fun events => exec_attempt events s asError effect⟩

/-- An event that is of no interest. -/
theorem isQuiet_record {e : Event} (h : keep e = false) :
    IsQuiet keep (record e : Run (StateM σ) Unit) := by
  intro s
  have hends : EndsWith keep (record e) s (.ok ()) ([e].filter keep) s := endsWith_record e s
  rw [List.filter_cons_of_neg (by simp [h]), List.filter_nil] at hends
  exact ⟨_, _, hends⟩

/-- Events that are of no interest, one after the other. -/
theorem isQuiet_forM_record {event : α → Event} (h : ∀ a, keep (event a) = false) (as : List α) :
    IsQuiet keep (as.forM fun a => record (event a) : Run (StateM σ) Unit) := by
  intro s
  refine ⟨.ok (), s, fun events => ⟨as.map event, exec_forM_record events s event as, ?_⟩⟩
  rw [List.filter_eq_nil_iff]
  intro e he
  obtain ⟨a, -, rfl⟩ := List.mem_map.mp he
  simp [h]

/-- **Two quiet runs one after the other are quiet.** -/
theorem IsQuiet.bind {run : Run (StateM σ) α} {next : α → Run (StateM σ) β}
    (h : IsQuiet keep run) (hnext : ∀ a, IsQuiet keep (next a)) : IsQuiet keep (run >>= next) := by
  intro s
  obtain ⟨result, s₁, hends⟩ := h s
  cases result with
  | error cause => exact ⟨.error cause, s₁, hends.bind_error next⟩
  | ok a =>
    obtain ⟨result, s', hrest⟩ := hnext a s₁
    exact ⟨result, s', hends.bind_ok hrest⟩

/-- A quiet run ends as it does when nothing has been recorded before it. -/
theorem IsQuiet.reports {run : Run (StateM σ) α} (h : IsQuiet keep run) (s : σ) :
    Reports keep run s fun result shown _ => result = (run.outcome s).1.1 ∧ shown = [] := by
  obtain ⟨result, s', hends⟩ := h s
  exact ⟨result, [], s', hends, hends.result_eq.symm, rfl⟩

/-- **After a quiet run** nothing has been reported. -/
theorem IsQuiet.bind_reports {run : Run (StateM σ) α} {next : α → Run (StateM σ) β} {s : σ}
    {post : Except Failure β → List Event → σ → Prop} (h : IsQuiet keep run)
    (hok : ∀ a s₁, (run.outcome s).1.1 = .ok a → Reports keep (next a) s₁ post)
    (herror : ∀ cause s₁, post (.error cause) [] s₁) : Reports keep (run >>= next) s post := by
  refine (h.reports s).bind ?_ ?_
  · rintro a shown s₁ ⟨hresult, rfl⟩
    exact hok a s₁ hresult.symm
  · rintro cause shown s₁ ⟨-, rfl⟩
    exact herror cause s₁

end BlockExtent.Run
