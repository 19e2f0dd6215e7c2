import BlockExtent.Access.BuiltIn
import BlockExtent.CommandLine.Run
import BlockExtent.Log.Filter
import BlockExtent.Log.Line

/-!
# The program

The program runs its command line with the built-in drivers.  A failure is an
event like any other, so that the filter decides whether it is shown; the exit
status tells of it in any case.

## Main definitions

* `ProgramResult` — the exit status and what is printed.
* `program` — the whole program.
-/

namespace BlockExtent

/-- What the program leaves behind, files apart. -/
structure ProgramResult where
  /-- The exit status. -/
  status : Nat
  /-- The text on the standard output. -/
  output : String
  /-- The lines on the standard error output. -/
  errorLines : List String
deriving DecidableEq, Repr

/-- The event of a failure. -/
def failureEvent (cause : Failure) : Event where
  severity := .error
  component := .program
  message := cause.message
  fields := []

/-- The lines of the events that a filter lets through. -/
def shownLines (filter : EventFilter) (events : List Event) : List String :=
  (events.filter filter.permits).flatMap fun e =>
    (e.line.toList.splitOn '\n').map String.ofList

/-- The result of a run of the command line. -/
def resultOf (filter : EventFilter) (result : Except Failure Reply)
    (events : List Event) : ProgramResult :=
  match result with
  | .ok reply =>
    { status := reply.status
      output := reply.output
      errorLines := shownLines filter events }
  | .error cause =>
    { status := failureStatus
      output := ""
      errorLines := shownLines filter (events ++ [failureEvent cause]) }

/-- The program, over a store of files, with the filter that its environment
asks for. -/
def program {m : Type → Type} [Monad m] (store : FileStore m) (filterText : Option String)
    (arguments : List String) : m ProgramResult := do
  let run : Run m Reply := do
    Access.reportBuiltIn
    runCommandLine (Access.builtIn store) arguments
  let (result, events) ← run.outcome
  return resultOf (.ofText filterText) result events

end BlockExtent
