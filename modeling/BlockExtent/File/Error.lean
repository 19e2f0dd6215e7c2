/-!
# Why a file operation fails

## Main definitions

* `FileError` — the cause of a failure.
* `FileError.message` — its wording.
-/

namespace BlockExtent

/-- Why a file operation fails. -/
inductive FileError where
  /-- A name on the path does not exist. -/
  | notFound
  /-- The name is taken. -/
  | alreadyExists
  /-- A name that is followed by further names is no directory. -/
  | notADirectory
  /-- A directory stands where a file is needed. -/
  | isADirectory
  /-- An argument is outside the range the system works with. -/
  | invalidArgument
  /-- A name or a path is longer than the system allows. -/
  | nameTooLong
  /-- A path contains the character NUL. -/
  | nulInPath
  /-- Any other cause, with the system's own number for it. -/
  | other (description : String) (code : Nat)
deriving DecidableEq, Repr

/-- The wording of a cause: what the system says, and its number. -/
def FileError.message : FileError → String
  | .notFound => "No such file or directory (os error 2)"
  | .alreadyExists => "File exists (os error 17)"
  | .notADirectory => "Not a directory (os error 20)"
  | .isADirectory => "Is a directory (os error 21)"
  | .invalidArgument => "Invalid argument (os error 22)"
  | .nameTooLong => "File name too long (os error 36)"
  | .nulInPath => "file name contained an unexpected NUL byte"
  | .other description code => s!"{description} (os error {code})"

end BlockExtent
