import BlockExtent.Access.Recorded
import BlockExtent.Proofs.Run.Execution

/-!
# Calls of a run

Two relations carry over from the parts of a run to the run: that its calls follow
a script, and that making one of them fail cuts the run off there.

The first is about one run.  Its calls are appended to those before it, and they are
the script as far as the first error.  What the run answers if no call fails is a
predicate, so that the script of what follows may depend on it.  The second is about
two runs of one program, with and without a point of failure.  Whether a call is at
the point depends on the calls before it, so both runs start with the same ones.

## Main definitions

* `Follows` — calls follow a script up to the first error.
* `Performs` — a run makes the calls of a script.
* `FailurePoint.Spares` — none of some calls is at a point of failure.
* `Cuts` — a run with a point of failure is the run without it, cut off there.

## Main results

* `Performs.bind`, `Performs.call_bind` — runs with a script.
* `Cuts.bind`, `Cuts.call` — runs that are cut off.
-/

namespace BlockExtent

variable {σ α β : Type}

/-- A call is kept with the error it answers.  At the point of failure that is the
failure of the point. -/
theorem Backend.exec_call (point : Option FailurePoint) (operation : Operation)
    (answer : StateM σ (Except Failure α)) (events : List Event) (s : σ) (calls : List Call) :
    (call point operation answer).exec events (s, calls) =
      match point.filter fun point => point.isAt calls operation with
      | some point =>
        ((.error point.failure, events), (s, calls ++ [⟨operation, some point.failure⟩]))
      | none =>
        (((answer s).1, events), ((answer s).2, calls ++ [⟨operation, errorOf (answer s).1⟩])) := by
  unfold call
  rw [Run.exec_attempt]
  dsimp only
  cases point.filter fun point => point.isAt calls operation with
  | some point => rfl
  | none =>
    rcases answer s with ⟨_ | _, s'⟩ <;> rfl

/-! ### Scripts -/

/-- Calls follow a script and end at the first one that answers an error, which is
the last argument. -/
inductive Follows : List Call → List Operation → Option Failure → Prop where
  /-- The script is at its end. -/
  | done : Follows [] [] none
  /-- A call is answered, and the script goes on. -/
  | answered (operation : Operation) {calls : List Call} {script : List Operation}
      {cause : Option Failure} (rest : Follows calls script cause) :
      Follows (⟨operation, none⟩ :: calls) (operation :: script) cause
  /-- A call answers an error. -/
  | failed (operation : Operation) (script : List Operation) (cause : Failure) :
      Follows [⟨operation, some cause⟩] (operation :: script) (some cause)

namespace Follows

theorem append {calls others : List Call} {script rest : List Operation}
    {cause : Option Failure} (h : Follows calls script none) (hrest : Follows others rest cause) :
    Follows (calls ++ others) (script ++ rest) cause := by
  generalize hnone : none = answered at h
  induction h with
  | done => exact hrest
  | answered operation _ ih => exact .answered operation (ih hnone)
  | failed => cases hnone

theorem append_script {calls : List Call} {script : List Operation} {cause : Failure}
    (h : Follows calls script (some cause)) (rest : List Operation) :
    Follows calls (script ++ rest) (some cause) := by
  generalize hsome : some cause = answered at h
  induction h with
  | done => cases hsome
  | answered operation _ ih => exact .answered operation (ih hsome)
  | failed operation script cause' => exact .failed operation (script ++ rest) cause'

end Follows

/-- A run makes the calls of a script.  If one of them answers an error, that is the
result of the run.  If none does, the result is as described. -/
def Performs (run : Run (StateM (σ × List Call)) α) (s : σ) (script : List Operation)
    (result : Except Failure α → Prop) : Prop :=
  ∀ events calls, ∃ answer events' s' added cause,
    run.exec events (s, calls) = ((answer, events'), (s', calls ++ added))
      ∧ Follows added script cause
      ∧ match cause with
        | some cause => answer = .error cause
        | none => result answer

namespace Performs

variable {run : Run (StateM (σ × List Call)) α} {next : α → Run (StateM (σ × List Call)) β}
  {s : σ} {script rest : List Operation} {result : Except Failure α → Prop}
  {result' : Except Failure β → Prop}

/-- A run without calls. -/
theorem pure (a : α) (s : σ) (h : result (.ok a)) :
    Performs (Pure.pure a : Run (StateM (σ × List Call)) α) s [] result := by
  intro events calls
  exact ⟨.ok a, events, s, [], none, by rw [Run.exec_pure, List.append_nil], .done, h⟩

/-- A failure that is not the answer of a call. -/
theorem throw (cause : Failure) (s : σ) (h : result (.error cause)) :
    Performs (MonadExcept.throw cause : Run (StateM (σ × List Call)) α) s [] result := by
  intro events calls
  refine ⟨.error cause, events, s, [], none, ?_, .done, h⟩
  rw [List.append_nil]
  exact Run.exec_throw events (s, calls) cause

/-- Events are no calls. -/
theorem record (e : Event) (s : σ) :
    Performs (Run.record e : Run (StateM (σ × List Call)) Unit) s []
      fun answer => answer = .ok () := by
  intro events calls
  exact ⟨.ok (), events ++ [e], s, [], none, by rw [Run.exec_record, List.append_nil], .done, rfl⟩

/-- **Runs one after the other make the calls of one script after the other.**  A
failure of the first run that no call answered leaves nothing for the second. -/
theorem bind (h : Performs run s script result)
    (hok : ∀ a, result (.ok a) → ∀ s', Performs (next a) s' rest result')
    (herror : ∀ cause, result (.error cause) → rest = [] ∧ result' (.error cause)) :
    Performs (run >>= next) s (script ++ rest) result' := by
  intro events calls
  obtain ⟨answer, events', s', added, cause, hexec, hfollows, hanswer⟩ := h events calls
  cases cause with
  | some cause =>
    -- a call failed, and the rest of the script is not reached
    refine ⟨.error cause, events', s', added, some cause, ?_, hfollows.append_script rest, rfl⟩
    rw [Run.exec_bind, hexec, hanswer]
  | none =>
    cases answer with
    | error cause =>
      -- no call failed, but the run gave up by itself
      obtain ⟨rfl, hresult⟩ := herror cause hanswer
      refine ⟨.error cause, events', s', added, none, ?_, ?_, hresult⟩
      · rw [Run.exec_bind, hexec]
      · rw [List.append_nil]
        exact hfollows
    | ok a =>
      obtain ⟨answer', events'', s'', added', cause', hexec', hfollows', hanswer'⟩ :=
        hok a hanswer s' events' (calls ++ added)
      refine ⟨answer', events'', s'', added ++ added', cause', ?_, hfollows.append hfollows',
        hanswer'⟩
      rw [Run.exec_bind, hexec, ← List.append_assoc]
      exact hexec'

/-- A single call. -/
theorem call (operation : Operation) (answer : StateM σ (Except Failure α)) (s : σ) :
    Performs (Backend.call none operation answer) s [operation]
      fun result => ∃ a, result = .ok a ∧ (answer s).1 = .ok a := by
  intro events calls
  refine ⟨(answer s).1, events, (answer s).2, [⟨operation, Backend.errorOf (answer s).1⟩],
    Backend.errorOf (answer s).1, ?_, ?_, ?_⟩
  · rw [Backend.exec_call]
    rfl
  · cases (answer s).1 with
    | ok a => exact .answered operation .done
    | error cause => exact .failed operation [] cause
  · cases hanswer : (answer s).1 with
    | ok a => exact ⟨a, rfl, rfl⟩
    | error cause => rfl

end Performs

/-! ### Cutting a run off -/

/-- None of some calls, made after others, is at a point of failure. -/
def FailurePoint.Spares (point : FailurePoint) : (before calls : List Call) → Prop
  | _, [] => True
  | before, call :: calls =>
    point.isAt before call.operation = false ∧ point.Spares (before ++ [call]) calls

theorem FailurePoint.spares_append (point : FailurePoint) (before calls others : List Call) :
    point.Spares before (calls ++ others)
      ↔ point.Spares before calls ∧ point.Spares (before ++ calls) others := by
  induction calls generalizing before with
  | nil => simp [Spares]
  | cons call calls ih =>
    rw [List.cons_append, Spares, Spares, ih, List.append_assoc, List.singleton_append, and_assoc]

/-- What becomes of a run, seen from its calls on, when a call at a point fails: a
run that makes no such call stays as it is, and one that makes such a call ends at
the first one with the failure of the point. -/
def IsCut (point : FailurePoint) (before : List Call)
    (free cut : (Except Failure α × List Event) × σ × List Call) : Prop :=
  ∃ added, free.2.2 = before ++ added
    ∧ (point.Spares before added ∧ cut = free
      ∨ ∃ spared call rest, added = spared ++ call :: rest
        ∧ point.Spares before spared
        ∧ point.isAt (before ++ spared) call.operation = true
        ∧ cut.1.1 = .error point.failure
        ∧ cut.2.2 = before ++ spared ++ [⟨call.operation, some point.failure⟩])

/-- A run with a point of failure is the run without it, cut off at the point. -/
def Cuts (point : FailurePoint) (free cut : Run (StateM (σ × List Call)) α) : Prop :=
  ∀ events s, IsCut point s.2 (free.exec events s) (cut.exec events s)

namespace Cuts

variable {point : FailurePoint} {free cut : Run (StateM (σ × List Call)) α}

/-- **Runs one after the other are cut off where one of them is.** -/
theorem bind {next next' : α → Run (StateM (σ × List Call)) β} (h : Cuts point free cut)
    (hnext : ∀ a, Cuts point (next a) (next' a)) :
    Cuts point (free >>= next) (cut >>= next') := by
  intro events s
  obtain ⟨added, hadded, hcut⟩ := h events s
  rcases hfree : free.exec events s with ⟨⟨answer, events'⟩, s', calls⟩
  rw [hfree] at hadded hcut
  obtain rfl : calls = s.2 ++ added := hadded
  rcases hcut with ⟨hspares, hsame⟩ | ⟨spared, call, rest, rfl, hspares, hat, herror, hcalls⟩
  · -- the first run is spared, so the second one decides
    rw [Run.exec_bind, Run.exec_bind, hsame, hfree]
    cases answer with
    | error cause => exact ⟨added, rfl, Or.inl ⟨hspares, rfl⟩⟩
    | ok a =>
      obtain ⟨added', hadded', hcut'⟩ := hnext a events' (s', s.2 ++ added)
      refine ⟨added ++ added', by rw [hadded', List.append_assoc], ?_⟩
      rcases hcut' with
        ⟨hspares', hsame'⟩ | ⟨spared, call, rest, rfl, hspares', hat, herror, hcalls⟩
      · exact Or.inl ⟨(point.spares_append _ _ _).mpr ⟨hspares, hspares'⟩, hsame'⟩
      · refine Or.inr ⟨added ++ spared, call, rest, by rw [List.append_assoc],
          (point.spares_append _ _ _).mpr ⟨hspares, hspares'⟩, ?_, herror, ?_⟩
        · rw [← List.append_assoc]
          exact hat
        · rw [hcalls, List.append_assoc s.2]
  · -- the run without the failure goes on, and only adds calls
    obtain ⟨added', hadded'⟩ : ∃ added', ((free >>= next).exec events s).2.2
        = s.2 ++ (spared ++ call :: rest) ++ added' := by
      rw [Run.exec_bind, hfree]
      cases answer with
      | error cause => exact ⟨[], by rw [List.append_nil]⟩
      | ok a =>
        obtain ⟨added', hadded', -⟩ := hnext a events' (s', s.2 ++ (spared ++ call :: rest))
        exact ⟨added', hadded'⟩
    rcases hrun : cut.exec events s with ⟨⟨answer', events''⟩, s'', calls⟩
    rw [hrun] at herror hcalls
    obtain rfl : answer' = .error point.failure := herror
    refine ⟨spared ++ call :: (rest ++ added'), ?_, Or.inr ⟨spared, call, rest ++ added', rfl,
      hspares, hat, ?_, ?_⟩⟩
    · rw [hadded']
      simp
    · rw [Run.exec_bind, hrun]
    · rw [Run.exec_bind, hrun]
      exact hcalls

/-- A single call is cut off if it is at the point. -/
theorem call (operation : Operation) (answer : StateM σ (Except Failure α)) :
    Cuts point (Backend.call none operation answer)
      (Backend.call (some point) operation answer) := by
  intro events s
  obtain ⟨s, calls⟩ := s
  refine ⟨[⟨operation, Backend.errorOf (answer s).1⟩], ?_, ?_⟩
  · rw [Backend.exec_call]
    rfl
  · rw [Backend.exec_call, Backend.exec_call]
    cases hat : point.isAt calls operation with
    | false =>
      have hfilter : ((some point).filter fun point => point.isAt calls operation) = none := by
        simp [Option.filter, hat]
      refine Or.inl ⟨⟨hat, trivial⟩, ?_⟩
      rw [hfilter]
      rfl
    | true =>
      have hfilter : ((some point).filter fun point => point.isAt calls operation)
          = some point := by
        simp [Option.filter, hat]
      refine Or.inr ⟨[], ⟨operation, _⟩, [], rfl, trivial, ?_, ?_, ?_⟩
      · rw [List.append_nil]
        exact hat
      · rw [hfilter]
      · rw [hfilter, List.append_nil]

end Cuts

end BlockExtent
