import BlockExtent.CommandLine.Program

/-!
# The executable

The only module with effects: it gives the program the computer's files, its
arguments and its environment, and prints what the program says.  Bytes count as
stored once they have left the program, and lines carry no time.

## Main definitions

* `computerStore` — the files of the computer.
* `main` — the entry point.
-/

namespace BlockExtent

/-- The cause of a failure by the number that the system gives it. -/
def FileError.ofCode (code : Nat) (description : String) : FileError :=
  match code with
  | 2 => .notFound
  | 17 => .alreadyExists
  | 20 => .notADirectory
  | 21 => .isADirectory
  | 22 => .invalidArgument
  | 36 => .nameTooLong
  | _ => .other description code

/-- The cause of a failed effect. -/
def FileError.ofEffect (e : IO.Error) : FileError :=
  match e with
  | .alreadyExists _ code details
  | .otherError code details
  | .resourceBusy code details
  | .resourceVanished code details
  | .unsupportedOperation code details
  | .hardwareFault code details
  | .unsatisfiedConstraints code details
  | .illegalOperation code details
  | .protocolError code details
  | .timeExpired code details
  | .interrupted _ code details
  | .noFileOrDirectory _ code details
  | .invalidArgument _ code details
  | .permissionDenied _ code details
  | .resourceExhausted _ code details
  | .inappropriateType _ code details
  | .noSuchThing _ code details => .ofCode code.toNat details
  | .unexpectedEof => .other "unexpected end of file" 0
  | .userError details => .other details 0

/-- The outcome of an effect that may fail. -/
def outcomeOf {α : Type} (effect : IO α) : IO (Except FileError α) := do
  try
    return .ok (← effect)
  catch e => return .error (.ofEffect e)

/-- The files of the computer. -/
def computerStore : FileStore IO where
  Handle := IO.FS.Handle
  read path := outcomeOf do
    let handle ← IO.FS.Handle.mk path .read
    match ← outcomeOf handle.readBinToEnd with
    | .ok bytes => return .bytes bytes
    | .error cause => return .unreadable cause
  create path := outcomeOf (IO.FS.Handle.mk path .write)
  append handle bytes := outcomeOf do
    handle.write bytes
    handle.flush
  sync handle := outcomeOf handle.flush
  makeDirectory path := outcomeOf (IO.FS.createDir path)
  isDirectory path := do
    match ← outcomeOf (IO.FS.realPath path) with
    | .ok found => found.isDir
    | .error _ => return false

end BlockExtent

/-- Runs the program on the arguments after its name. -/
def main (arguments : List String) : IO UInt32 := do
  let result ← BlockExtent.program BlockExtent.computerStore (← IO.getEnv "RUST_LOG") arguments
  IO.print result.output
  for line in result.errorLines do
    IO.eprintln line
  return UInt32.ofNat result.status
