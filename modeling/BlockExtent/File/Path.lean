import BlockExtent.Text.SplitLast

/-!
# Paths

A path is a text whose names are separated by slashes.  The functions here read
the text only; what is found at a path is the matter of a file system.

## Main definitions

* `Path.pieces` — what stands between the slashes.
* `Path.components` — the pieces that matter for the shape of a path.
* `Path.fileName?`, `Path.extension?` — the last name and what follows its dot.
* `Path.ancestors` — a path, its parent, and so on.
* `Path.join` — a path below a directory.
-/

namespace BlockExtent.Path

/-- Whether a path starts at the root. -/
def isAbsolute (path : String) : Bool := path.toList.head? == some '/'

/-- Whether a path ends in a slash. -/
def endsInSlash (path : String) : Bool := path.toList.getLast? == some '/'

/-- The texts between the slashes, without the empty ones. -/
def pieces (path : String) : List String :=
  ((path.toList.splitOn '/').filter (· ≠ [])).map String.ofList

/-- The pieces without `.`, which names the directory it stands in.  Only a `.`
that a relative path starts with is kept. -/
def components (path : String) : List String :=
  match pieces path with
  | [] => []
  | first :: rest =>
    (if first ≠ "." ∨ isAbsolute path = false then [first] else [])
      ++ rest.filter (· ≠ ".")

/-- The last component, if it is a name. -/
def fileName? (path : String) : Option String :=
  (components path).getLast?.filter fun name => name ≠ "." ∧ name ≠ ".."

/-- What follows the last dot of the file name.  A dot that the name starts with
separates nothing, whereas nothing needs to follow the dot. -/
def extension? (path : String) : Option String :=
  (fileName? path).bind fun name =>
    match splitLast '.' name.toList with
    | some (_ :: _, after) => some (String.ofList after)
    | _ => none

/-- The path made of the given components. -/
def ofComponents (absolute : Bool) (components : List String) : String :=
  (if absolute then "/" else "") ++ String.intercalate "/" components

/-- The proper prefixes of a list of components, longest first, as paths. -/
def properAncestors (absolute : Bool) (components : List String) : List String :=
  ((List.range components.length).map fun n =>
    ofComponents absolute (components.take n)).reverse

/-- A path, its parent, the parent of that, and so on. -/
def ancestors (path : String) : List String :=
  path :: properAncestors (isAbsolute path) (components path)

/-- The path `below` seen from a directory.  An absolute path is the same from
everywhere. -/
def join (directory below : String) : String :=
  if isAbsolute below ∨ directory = "" then below
  else if endsInSlash directory then directory ++ below
  else directory ++ "/" ++ below

end BlockExtent.Path
