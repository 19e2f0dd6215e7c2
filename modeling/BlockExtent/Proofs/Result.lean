import Mathlib.Data.List.Forall2

/-!
# Steps that may fail

A computation in `Except` goes on with what a step before it gives, and so does one that
works on a state.

## Main results

* `ok_bind`, `error_bind` — a step that gives a value, and one that fails.
* `bind_eq_ok` — what there was between two steps that both succeeded.
* `mapM_eq_pure` — a step for each element of a list.
* `stateM_bind_apply` — a step that works on a state.
-/

namespace BlockExtent

variable {ε α β γ : Type}

theorem ok_bind (a : α) (next : α → Except ε β) : (Except.ok a >>= next) = next a :=
  rfl

theorem error_bind (cause : ε) (next : α → Except ε β) :
    (Except.error cause >>= next) = .error cause :=
  rfl

/-- Between two steps that both succeeded there is what the first one gave. -/
theorem bind_eq_ok {first : Except ε α} {next : α → Except ε β} {b : β}
    (h : first >>= next = .ok b) : ∃ a, first = .ok a ∧ next a = .ok b := by
  cases first with
  | error cause => cases h
  | ok a => exact ⟨a, rfl, h⟩

section MapM

variable {m : Type → Type} [Monad m] [LawfulMonad m] {f : β → m γ}

/-- A step that succeeds for every element of a list gives a list. -/
theorem mapM_eq_pure {bs : List β} {cs : List γ}
    (h : List.Forall₂ (fun b c => f b = pure c) bs cs) : bs.mapM f = pure cs := by
  induction h with
  | nil => rfl
  | cons hstep _ ih => rw [List.mapM_cons, hstep, pure_bind, ih, pure_bind]

theorem mapM_map_eq_pure {g : α → β} {k : α → γ} {as : List α}
    (h : ∀ a ∈ as, f (g a) = pure (k a)) : (as.map g).mapM f = pure (as.map k) := by
  refine mapM_eq_pure ?_
  rw [List.forall₂_map_left_iff, List.forall₂_map_right_iff, List.forall₂_same]
  exact h

end MapM

/-- A step that works on a state goes on with what the one before it leaves. -/
theorem stateM_bind_apply {σ : Type} {α β : Type} (effect : StateM σ α) (next : α → StateM σ β)
    (s : σ) : (effect >>= next) s = next (effect s).1 (effect s).2 :=
  rfl

end BlockExtent
