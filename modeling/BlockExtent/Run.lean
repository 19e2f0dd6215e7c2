import BlockExtent.Run.Failure
import BlockExtent.Log.Event

/-!
# Runs

A run works in a world of effects `m`, records events, and may fail.  The events
recorded before a failure are kept.

## Main definitions

* `Run m α` — a run that gives an `α`.
* `Run.record` — records an event.
* `Run.perform` — an effect of the world.
* `Run.attempt` — an effect that may fail.
* `Run.outcome` — the result of a run and the events it recorded.
-/

namespace BlockExtent

/-- A run in the world `m`. -/
abbrev Run (m : Type → Type) (α : Type) : Type :=
  ExceptT Failure (StateT (List Event) m) α

namespace Run

variable {m : Type → Type} [Monad m] {α ε : Type}

/-- Records an event. -/
def record (e : Event) : Run m Unit :=
  ExceptT.lift (modify (· ++ [e]))

/-- An effect of the world. -/
def perform (effect : m α) : Run m α :=
  ExceptT.lift (StateT.lift effect)

/-- A result that may be a failure. -/
def ofExcept (asError : ε → Failure) (result : Except ε α) : Run m α :=
  match result with
  | .ok a => pure a
  | .error e => throw (asError e)

/-- An effect of the world that may fail. -/
def attempt (asError : ε → Failure) (effect : m (Except ε α)) : Run m α := do
  ofExcept asError (← perform effect)

/-- The result of a run and the events it recorded. -/
def outcome (run : Run m α) : m (Except Failure α × List Event) :=
  StateT.run (ExceptT.run run) []

end Run

end BlockExtent
