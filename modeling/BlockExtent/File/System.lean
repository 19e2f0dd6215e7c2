import BlockExtent.Bindings
import BlockExtent.File.Error
import BlockExtent.File.Path

/-!
# A file system

A file system is a finite map from locations, which are lists of names from the
root, to directories and files.  There are no links, so that `..` is the
location without its last name.

## Main definitions

* `FileSystem` — the map and the working directory.
* `FileSystem.lookup`, `FileSystem.insert` — what is at a location.
* `FileSystem.find` — what is at a path.
* `FileSystem.createFile`, `FileSystem.append`, `FileSystem.makeDirectory` — the
  operations that change it.
-/

namespace BlockExtent

/-- Where something is: the names on the way from the root. -/
abbrev Location : Type := List String

/-- What is at a location. -/
inductive Node where
  /-- A directory. -/
  | directory
  /-- A file and what it holds. -/
  | file (content : ByteArray)

/-- A file system. -/
structure FileSystem where
  /-- Everything below the root.  The first entry of a location counts. -/
  entries : List (Location × Node)
  /-- Where relative paths start. -/
  workingDirectory : Location

namespace FileSystem

/-- What is at a location.  The root is a directory. -/
def lookup (fs : FileSystem) (location : Location) : Option Node :=
  if location = [] then some .directory else fs.entries.lookup location

/-- The file system with a node put at a location. -/
def insert (fs : FileSystem) (location : Location) (node : Node) : FileSystem :=
  { fs with entries := putBinding location node fs.entries }

theorem lookup_insert {location : Location} (h : location ≠ []) (fs : FileSystem)
    (node : Node) (other : Location) :
    (fs.insert location node).lookup other =
      if other = location then some node else fs.lookup other := by
  by_cases ho : other = []
  · subst ho
    simp [lookup, Ne.symm h]
  · simp [lookup, insert, lookup_putBinding, ho]

theorem insert_insert (fs : FileSystem) (location : Location) (node node' : Node) :
    (fs.insert location node).insert location node' = fs.insert location node' := by
  simp only [insert, putBinding_putBinding]

@[simp] theorem workingDirectory_insert (fs : FileSystem) (location : Location)
    (node : Node) : (fs.insert location node).workingDirectory = fs.workingDirectory :=
  rfl

/-! ### Paths in a file system -/

/-- The largest number of bytes in a name. -/
def nameLimit : Nat := 255

/-- The number of bytes that a path stays below. -/
def pathLimit : Nat := 4096

/-- Refuses a text that is no path for any file system. -/
def checkPath (path : String) : Except FileError Unit :=
  if path.toList.contains '\x00' then .error .nulInPath
  else if path = "" then .error .notFound
  else if pathLimit ≤ path.utf8ByteSize then .error .nameTooLong
  else .ok ()

/-- Where a path starts. -/
def start (fs : FileSystem) (path : String) : Location :=
  if Path.isAbsolute path then [] else fs.workingDirectory

/-- The location of a name seen from a directory, whether or not there is
anything at it. -/
def below (fs : FileSystem) (location : Location) (name : String) :
    Except FileError Location :=
  match fs.lookup location with
  | none => .error .notFound
  | some (.file _) => .error .notADirectory
  | some .directory =>
    if name = "." then .ok location
    else if name = ".." then .ok location.dropLast
    else if nameLimit < name.utf8ByteSize then .error .nameTooLong
    else .ok (location ++ [name])

/-- Follows names to a location where there is something. -/
def follow (fs : FileSystem) : Location → List String → Except FileError Location
  | location, [] => .ok location
  | location, name :: names =>
    match fs.below location name with
    | .error cause => .error cause
    | .ok next => if (fs.lookup next).isSome then fs.follow next names else .error .notFound

/-- What is at a path. -/
def find (fs : FileSystem) (path : String) : Except FileError Node := do
  checkPath path
  let location ← fs.follow (fs.start path) (Path.pieces path)
  match fs.lookup location with
  | none => .error .notFound
  | some (.file content) =>
    if Path.endsInSlash path then .error .notADirectory else .ok (.file content)
  | some .directory => .ok .directory

/-- Whether there is a directory at a path. -/
def isDirectory (fs : FileSystem) (path : String) : Bool :=
  match fs.find path with
  | .ok .directory => true
  | _ => false

/-- The location of the last name of a path, and whether it can be that of
something new: it is no `.` or `..` and not the root. -/
def findLast (fs : FileSystem) (path : String) : Except FileError (Location × Bool) := do
  checkPath path
  let names := Path.pieces path
  match names.getLast? with
  | none => .ok ([], false)
  | some last =>
    let directory ← fs.follow (fs.start path) names.dropLast
    match fs.lookup directory with
    | some .directory => .ok (directory, last ≠ "." ∧ last ≠ "..")
    | some (.file _) => .error .notADirectory
    | none => .error .notFound

/-- The last name of a path. -/
def lastName (path : String) : String := (Path.pieces path).getLast?.getD ""

/-- Makes an empty file, or empties the one that is there.  Gives its
location. -/
def createFile (fs : FileSystem) (path : String) :
    Except FileError (Location × FileSystem) := do
  let (directory, named) ← fs.findLast path
  if named = false ∨ Path.endsInSlash path then .error .isADirectory
  else
    let location ← fs.below directory (lastName path)
    match fs.lookup location with
    | some .directory => .error .isADirectory
    | _ => .ok (location, fs.insert location (.file .empty))

/-- Adds bytes at the end of the file at a location. -/
def append (fs : FileSystem) (location : Location) (bytes : ByteArray) : FileSystem :=
  match fs.lookup location with
  | some (.file content) => fs.insert location (.file (content ++ bytes))
  | _ => fs

/-- Makes a directory where there is nothing. -/
def makeDirectory (fs : FileSystem) (path : String) : Except FileError FileSystem := do
  let (directory, named) ← fs.findLast path
  if named = false then .error .alreadyExists
  else
    let location ← fs.below directory (lastName path)
    match fs.lookup location with
    | some _ => .error .alreadyExists
    | none => .ok (fs.insert location .directory)

end FileSystem

end BlockExtent
