import BlockExtent.Conversion

/-!
# Running a command line

## Main definitions

* `Reply` — the exit status and what is printed.
* `runCommandLine` — what the arguments of a program do.
-/

namespace BlockExtent

/-- What a command line answers. -/
structure Reply where
  /-- The exit status. -/
  status : Nat
  /-- The text for the standard output. -/
  output : String
deriving DecidableEq, Repr

/-- The exit status of success. -/
def successStatus : Nat := 0

/-- The exit status of failure. -/
def failureStatus : Nat := 1

/-- The exit status of arguments that make no sense. -/
def usageStatus : Nat := 2

variable {m : Type → Type} [Monad m]

/-- Reports the end of a conversion. -/
def reportDone (settings : Settings) (written : Written) : Run m Unit :=
  Run.record
    { severity := .info
      component := .commandLine
      message := "done"
      fields :=
        [("driver", .plain written.driver),
          ("layers", .count written.layers.length),
          ("features", .count written.features),
          ("output", .plain settings.output)] }

/-- What the arguments after a program's name do: convert a raster, or show how
to call the program. -/
def runCommandLine (access : Access m) (arguments : List String) : Run m Reply := do
  match ← Run.ofExcept id (Request.parse arguments) with
  | .help => return { status := usageStatus, output := usage ++ "\n" }
  | .convert settings =>
    let written ← convert access settings
    reportDone settings written
    return { status := successStatus, output := "" }

end BlockExtent
