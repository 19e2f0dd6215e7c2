import BlockExtent.File.System

/-!
# Stores of files

The program works on files through a few operations, which a file system offers
as a value and a computer as effects.

## Main definitions

* `FileStore m` — the operations, in the world `m`.
* `FileStore.makeDirectories` — makes a directory and those above it.
* `FileSystem.store` — the operations on a file system.
-/

namespace BlockExtent

/-- What reading an opened file gives. -/
inductive FileContent where
  /-- The bytes of a file. -/
  | bytes (content : ByteArray)
  /-- It can be opened and not read, like a directory. -/
  | unreadable (cause : FileError)

/-- The operations on files in the world `m`. -/
structure FileStore (m : Type → Type) where
  /-- A file opened for writing. -/
  Handle : Type
  /-- Opens and reads what is at a path. -/
  read : String → m (Except FileError FileContent)
  /-- Opens an empty file at a path, emptying what is there. -/
  create : String → m (Except FileError Handle)
  /-- Adds bytes at the end of a file. -/
  append : Handle → ByteArray → m (Except FileError Unit)
  /-- Waits until the bytes added to a file are stored. -/
  sync : Handle → m (Except FileError Unit)
  /-- Makes a directory where there is nothing. -/
  makeDirectory : String → m (Except FileError Unit)
  /-- Whether there is a directory at a path. -/
  isDirectory : String → m Bool

namespace FileStore

variable {m : Type → Type} [Monad m]

/-- Makes the first of a list of paths a directory, where each path is in the
directory that follows it.  The ones above are made when they are missing. -/
def makeDirectoriesFrom (store : FileStore m) : List String → m (Except FileError Unit)
  | [] => pure (.error .notFound)
  | path :: above => do
    if path = "" then return .ok ()
    match ← store.makeDirectory path with
    | .ok () => return .ok ()
    | .error .notFound =>
      match ← store.makeDirectoriesFrom above with
      | .error cause => return .error cause
      | .ok () =>
        match ← store.makeDirectory path with
        | .ok () => return .ok ()
        | .error cause => acceptDirectory path cause
    | .error cause => acceptDirectory path cause
where
  /-- A failure to make a directory that is there is none. -/
  acceptDirectory (path : String) (cause : FileError) : m (Except FileError Unit) := do
    if ← store.isDirectory path then return .ok () else return .error cause

/-- Makes a directory, and the ones above it when they are missing.  The working
directory, whose path is empty, is always there. -/
def makeDirectories (store : FileStore m) (path : String) : m (Except FileError Unit) :=
  store.makeDirectoriesFrom (Path.ancestors path)

end FileStore

namespace FileSystem

/-- The operations on a file system. -/
def store : FileStore (StateM FileSystem) where
  Handle := Location
  read path := do
    match (← get).find path with
    | .error cause => return .error cause
    | .ok .directory => return .ok (.unreadable .isADirectory)
    | .ok (.file content) => return .ok (.bytes content)
  create path := do
    match (← get).createFile path with
    | .error cause => return .error cause
    | .ok (location, after) =>
      set after
      return .ok location
  append location bytes := do
    modify (·.append location bytes)
    return .ok ()
  sync _ := return .ok ()
  makeDirectory path := do
    match (← get).makeDirectory path with
    | .error cause => return .error cause
    | .ok after =>
      set after
      return .ok ()
  isDirectory path := do
    return (← get).isDirectory path

end FileSystem

end BlockExtent
