import BlockExtent.Proofs.Result
import BlockExtent.Run

/-!
# Runs step by step

A run in a world with a state takes the events recorded so far and the state, and
gives its result with the events and the state after it.

## Main definitions

* `Run.exec` — what a run does to events and state.
* `Run.Gives` — a run succeeds, whatever has been recorded before.
* `Run.Fails` — a run fails, whatever has been recorded before.
* `Run.outcomes` — the results of runs, one after the other.
* `Run.Ensures` — a condition on how a run ends, be it with a failure or not.

## Main results

* `Run.exec_bind` — a run goes on with what the run before it leaves.
* `Run.exec_bind_eq_ok` — what there was between two runs that both succeeded.
* `Run.Gives.bind` — two runs that succeed, one after the other.
* `Run.Fails.bind`, `Run.Gives.bind_fails` — the first failure is that of the whole run.
* `Run.Ensures.bind` — two runs that end in any way, one after the other.
-/

namespace BlockExtent.Run

variable {σ α β ε : Type}

/-- What a run does to the events and the state before it. -/
def exec (run : Run (StateM σ) α) (events : List Event) (s : σ) :
    (Except Failure α × List Event) × σ :=
  StateT.run (StateT.run (ExceptT.run run) events) s

theorem outcome_eq_exec (run : Run (StateM σ) α) (s : σ) : run.outcome s = run.exec [] s :=
  rfl

variable (events : List Event) (s : σ)

@[simp] theorem exec_pure (a : α) :
    (pure a : Run (StateM σ) α).exec events s = ((.ok a, events), s) :=
  rfl

@[simp] theorem exec_throw (cause : Failure) :
    (throw cause : Run (StateM σ) α).exec events s = ((.error cause, events), s) :=
  rfl

/-- A run goes on with what the run before it leaves, unless that failed. -/
theorem exec_bind (run : Run (StateM σ) α) (next : α → Run (StateM σ) β) :
    (run >>= next).exec events s =
      match run.exec events s with
      | ((.ok a, events'), s') => (next a).exec events' s'
      | ((.error cause, events'), s') => ((.error cause, events'), s') := by
  unfold exec
  rw [ExceptT.run_bind, StateT.run_bind, StateT.run_bind]
  rcases StateT.run (StateT.run (ExceptT.run run) events) s with ⟨⟨result, events'⟩, s'⟩
  cases result <;> rfl

/-- A run goes on with what a run that succeeded leaves. -/
theorem exec_bind_of_ok {run : Run (StateM σ) α} (next : α → Run (StateM σ) β) {a : α}
    {events₁ : List Event} {s₁ : σ} (h : run.exec events s = ((.ok a, events₁), s₁)) :
    (run >>= next).exec events s = (next a).exec events₁ s₁ := by
  rw [exec_bind, h]

/-- Between two runs that both succeeded there is what the first one left. -/
theorem exec_bind_eq_ok {run : Run (StateM σ) α} {next : α → Run (StateM σ) β} {b : β}
    {events' : List Event} {s' : σ} (h : (run >>= next).exec events s = ((.ok b, events'), s')) :
    ∃ a events₁ s₁, run.exec events s = ((.ok a, events₁), s₁)
      ∧ (next a).exec events₁ s₁ = ((.ok b, events'), s') := by
  rw [exec_bind] at h
  rcases hrun : run.exec events s with ⟨⟨_ | a, events₁⟩, s₁⟩
  · rw [hrun] at h
    cases h
  · rw [hrun] at h
    exact ⟨a, events₁, s₁, rfl, h⟩

@[simp] theorem exec_record (e : Event) :
    (record e : Run (StateM σ) Unit).exec events s = ((.ok (), events ++ [e]), s) :=
  rfl

@[simp] theorem exec_perform (effect : StateM σ α) :
    (perform effect).exec events s = ((.ok (effect s).1, events), (effect s).2) :=
  rfl

/-- Events that are recorded one after the other. -/
theorem exec_forM_record (event : α → Event) (as : List α) :
    (as.forM fun a => record (event a) : Run (StateM σ) Unit).exec events s
      = ((.ok (), events ++ as.map event), s) := by
  induction as generalizing events with
  | nil => rw [List.map_nil, List.append_nil]; rfl
  | cons a as ih =>
    rw [List.forM, exec_bind, exec_record]
    dsimp only
    rw [ih, List.map_cons, List.append_assoc, List.singleton_append]

theorem exec_ofExcept (asError : ε → Failure) (result : Except ε α) :
    (ofExcept asError result : Run (StateM σ) α).exec events s
      = ((result.mapError asError, events), s) := by
  cases result <;> rfl

/-- A result that a run goes on with is no failure, and nothing is touched. -/
theorem exec_ofExcept_eq_ok {asError : ε → Failure} {result : Except ε α} {a : α}
    {events' : List Event} {s' : σ}
    (h : (ofExcept asError result : Run (StateM σ) α).exec events s = ((.ok a, events'), s')) :
    result = .ok a ∧ s' = s := by
  rw [exec_ofExcept] at h
  cases result with
  | error cause => cases h
  | ok b =>
    cases h
    exact ⟨rfl, rfl⟩

/-- An effect that may fail keeps the events. -/
theorem exec_attempt (asError : ε → Failure) (effect : StateM σ (Except ε α)) :
    (attempt asError effect).exec events s
      = (((effect s).1.mapError asError, events), (effect s).2) := by
  unfold attempt
  rw [exec_bind, exec_perform]
  exact exec_ofExcept events (effect s).2 asError (effect s).1

/-- An effect that did not fail gave its answer. -/
theorem exec_attempt_eq_ok {asError : ε → Failure} {effect : StateM σ (Except ε α)} {a : α}
    {events' : List Event} {s' : σ}
    (h : (attempt asError effect).exec events s = ((.ok a, events'), s')) :
    effect s = (.ok a, s') := by
  rw [exec_attempt] at h
  rcases heffect : effect s with ⟨_ | b, s₁⟩
  · rw [heffect] at h
    cases h
  · rw [heffect] at h
    cases h
    rfl

/-! ### Runs that succeed -/

/-- A run succeeds with a result and a state after it, whatever has been recorded before. -/
def Gives (run : Run (StateM σ) α) (s : σ) (a : α) (s' : σ) : Prop :=
  ∀ events, ∃ events', run.exec events s = ((.ok a, events'), s')

theorem gives_pure (a : α) (s : σ) : Gives (pure a) s a s :=
  fun events => ⟨events, rfl⟩

theorem gives_record (e : Event) (s : σ) : Gives (record e) s () s :=
  fun _ => ⟨_, rfl⟩

theorem gives_ofExcept {result : Except ε α} {a : α} (h : result = .ok a)
    (asError : ε → Failure) (s : σ) : Gives (ofExcept asError result) s a s := by
  subst h
  exact gives_pure a s

theorem gives_attempt {effect : StateM σ (Except ε α)} {a : α} {s s' : σ}
    (h : effect s = (.ok a, s')) (asError : ε → Failure) :
    Gives (attempt asError effect) s a s' := by
  intro events
  rw [exec_attempt, h]
  exact ⟨events, rfl⟩

/-- Two runs that succeed, one after the other. -/
theorem Gives.bind {run : Run (StateM σ) α} {next : α → Run (StateM σ) β} {a : α} {b : β}
    {s s₁ s' : σ} (h : Gives run s a s₁) (hnext : Gives (next a) s₁ b s') :
    Gives (run >>= next) s b s' := by
  intro events
  obtain ⟨events₁, hrun⟩ := h events
  rw [exec_bind_of_ok events s next hrun]
  exact hnext events₁

/-- A run that succeeds does so with a single result. -/
theorem Gives.eq_of_exec {run : Run (StateM σ) α} {a b : α} {events events' : List Event}
    {s s₁ s' : σ} (h : Gives run s a s₁) (hexec : run.exec events s = ((.ok b, events'), s')) :
    b = a ∧ s' = s₁ := by
  obtain ⟨events₁, hrun⟩ := h events
  rw [hrun] at hexec
  cases hexec
  exact ⟨rfl, rfl⟩

/-- The results of runs, one after the other. -/
def outcomes {m : Type → Type} [Monad m] : List (Run m α) → m (List (Except Failure α))
  | [] => return []
  | run :: runs => do
    let (result, _) ← run.outcome
    let results ← outcomes runs
    return result :: results

/-- The runs after a run that succeeds go on with the state that it leaves. -/
theorem outcomes_cons {run : Run (StateM σ) α} {runs : List (Run (StateM σ) α)} {a : α}
    {results : List (Except Failure α)} {s s₁ s' : σ} (h : Gives run s a s₁)
    (hruns : outcomes runs s₁ = (results, s')) :
    outcomes (run :: runs) s = (.ok a :: results, s') := by
  obtain ⟨events, hrun⟩ := h []
  rw [← outcome_eq_exec] at hrun
  unfold outcomes
  rw [stateM_bind_apply, hrun]
  dsimp only
  rw [stateM_bind_apply, hruns]
  rfl

/-! ### Runs that fail -/

/-- A run fails with a cause and a state after it, whatever has been recorded before. -/
def Fails (run : Run (StateM σ) α) (s : σ) (cause : Failure) (s' : σ) : Prop :=
  ∀ events, ∃ events', run.exec events s = ((.error cause, events'), s')

/-- Nothing is done after a run that fails. -/
theorem Fails.bind {run : Run (StateM σ) α} {cause : Failure} {s s' : σ}
    (h : Fails run s cause s') (next : α → Run (StateM σ) β) :
    Fails (run >>= next) s cause s' := by
  intro events
  obtain ⟨events', hrun⟩ := h events
  rw [exec_bind, hrun]
  exact ⟨events', rfl⟩

/-- A run fails after one that succeeds. -/
theorem Gives.bind_fails {run : Run (StateM σ) α} {next : α → Run (StateM σ) β} {a : α}
    {cause : Failure} {s s₁ s' : σ} (h : Gives run s a s₁)
    (hnext : Fails (next a) s₁ cause s') : Fails (run >>= next) s cause s' := by
  intro events
  obtain ⟨events₁, hrun⟩ := h events
  rw [exec_bind_of_ok events s next hrun]
  exact hnext events₁

/-! ### Runs that end in any way -/

/-- The result of a run, be it a failure or not, and the state after it satisfy a condition,
whatever has been recorded before. -/
def Ensures (run : Run (StateM σ) α) (s : σ) (post : Except Failure α → σ → Prop) : Prop :=
  ∀ events, post (run.exec events s).1.1 (run.exec events s).2

section Ensures

variable {s : σ} {post : Except Failure α → σ → Prop}

theorem ensures_pure {a : α} (h : post (.ok a) s) : Ensures (pure a) s post :=
  fun _ => h

theorem ensures_record (e : Event) {post : Except Failure Unit → σ → Prop}
    (h : post (.ok ()) s) : Ensures (record e) s post :=
  fun _ => h

theorem ensures_ofExcept {asError : ε → Failure} {result : Except ε α}
    (h : post (result.mapError asError) s) : Ensures (ofExcept asError result) s post := by
  intro events
  rw [exec_ofExcept]
  exact h

theorem ensures_attempt {asError : ε → Failure} {effect : StateM σ (Except ε α)}
    (h : post ((effect s).1.mapError asError) (effect s).2) :
    Ensures (attempt asError effect) s post := by
  intro events
  rw [exec_attempt]
  exact h

/-- A run that is known up to its events. -/
theorem ensures_of_exec {run : Run (StateM σ) α} {result : Except Failure α} {s' : σ}
    (hexec : ∀ events, ∃ events', run.exec events s = ((result, events'), s'))
    (h : post result s') : Ensures run s post := by
  intro events
  obtain ⟨events', hrun⟩ := hexec events
  rw [hrun]
  exact h

/-- A condition may be weakened. -/
theorem Ensures.mono {run : Run (StateM σ) α} {post' : Except Failure α → σ → Prop}
    (h : Ensures run s post) (hpost : ∀ result s', post result s' → post' result s') :
    Ensures run s post' :=
  fun events => hpost _ _ (h events)

/-- **Two runs one after the other.**  A failure of the first is that of both. -/
theorem Ensures.bind {run : Run (StateM σ) α} {next : α → Run (StateM σ) β}
    {post' : Except Failure β → σ → Prop} (h : Ensures run s post)
    (hok : ∀ a s₁, post (.ok a) s₁ → Ensures (next a) s₁ post')
    (herror : ∀ cause s₁, post (.error cause) s₁ → post' (.error cause) s₁) :
    Ensures (run >>= next) s post' := by
  intro events
  have hrun := h events
  rw [exec_bind]
  generalize run.exec events s = ended at hrun
  rcases ended with ⟨⟨cause | a, events₁⟩, s₁⟩
  · exact herror cause s₁ hrun
  · exact hok a s₁ hrun events₁

end Ensures

end BlockExtent.Run
