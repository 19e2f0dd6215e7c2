import BlockExtent.File.Store
import BlockExtent.GeoJson.Document
import BlockExtent.Run

/-!
# GeoJSON datasets

A dataset whose path has an extension is a single file, which holds one layer.
A dataset whose path has none is a directory with a file for each layer.  A layer is
added to its file as a whole: that its text may be collected in pieces before it gets
there is not modelled.

## Main definitions

* `Dataset` — a dataset that layers are written to.
* `Dataset.create` — makes a dataset at a path.
* `writeCollection` — writes a layer into an open file.
* `Dataset.writeLayer` — writes a layer.
* `Dataset.close` — completes the dataset.
-/

namespace BlockExtent.GeoJson

/-- The name of the driver of this format. -/
def driverName : String := "GeoJSON"

/-- Where layers go. -/
inductive Destination (Handle : Type) where
  /-- A single file, by its path, which is open. -/
  | file (path : String) (handle : Handle)
  /-- A directory, by its path. -/
  | directory (path : String)

/-- A dataset that layers are written to. -/
structure Dataset (Handle : Type) where
  /-- Where layers go. -/
  target : Destination Handle
  /-- The number of layers written. -/
  layers : Nat

variable {m : Type → Type} [Monad m]

/-- Writes blocks as a feature collection at the end of an open file.  Gives the
number of features. -/
def writeCollection (store : FileStore m) (handle : store.Handle) (name : String)
    (reference : Option SpatialReference) (blocks : List (BlockRectangle Float)) :
    Run m Nat := do
  Run.attempt .file (store.append handle (bytesOf (collectionText name reference blocks)))
  return blocks.length

namespace Dataset

/-- Makes an empty dataset at a path: a file, or a directory with those above
it. -/
def create (store : FileStore m) (path : String) : Run m (Dataset store.Handle) := do
  if (Path.extension? path).isSome then
    let handle ← Run.attempt .file (store.create path)
    return { target := .file path handle, layers := 0 }
  else
    Run.attempt .file (store.makeDirectories path)
    return { target := .directory path, layers := 0 }

/-- The path of the file of a layer in a directory. -/
def layerPath (directory name : String) : String :=
  Path.join directory (name ++ ".geojson")

/-- Writes the blocks of a layer.  Gives their number, and the dataset
afterwards. -/
def writeLayer (store : FileStore m) (dataset : Dataset store.Handle) (name : String)
    (reference : Option SpatialReference) (blocks : List (BlockRectangle Float)) :
    Run m (Nat × Dataset store.Handle) := do
  match dataset.target with
  | .file _ handle =>
    if dataset.layers ≠ 0 then throw (.singleLayerOnly driverName name)
    let count ← writeCollection store handle name reference blocks
    return (count, { dataset with layers := dataset.layers + 1 })
  | .directory path =>
    let handle ← Run.attempt .file (store.create (layerPath path name))
    let count ← writeCollection store handle name reference blocks
    return (count, { dataset with layers := dataset.layers + 1 })

/-- The failure to store the file at a path. -/
def notStored (path : String) (cause : FileError) : Failure :=
  .other s!"cannot flush {path}: {cause.message}"

/-- Completes the dataset.  A single file without a layer becomes a collection
without features, and is stored before the run goes on. -/
def close (store : FileStore m) (dataset : Dataset store.Handle) : Run m Unit :=
  match dataset.target with
  | .file path handle => do
    if dataset.layers = 0 then
      Run.attempt .file (store.append handle (bytesOf emptyCollectionText))
    Run.attempt (notStored path) (store.sync handle)
  | .directory _ => pure ()

end Dataset

end BlockExtent.GeoJson
