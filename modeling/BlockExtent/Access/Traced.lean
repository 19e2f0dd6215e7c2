import BlockExtent.Access
import BlockExtent.Raster.LevelChoice

/-!
# Traced access

Access to a raster that is only described, which keeps a trace of the operations
asked for and can be told to fail at one of them.  It shows in which order a
conversion works.

## Main definitions

* `Operation` — an operation asked for, with its arguments.
* `FailurePoint` — an operation that can be made to fail.
* `RasterDescription` — the raster, and how access to it behaves.
* `Access.traced` — the access.
-/

namespace BlockExtent

/-- An operation asked for, with its arguments. -/
inductive Operation where
  /-- Opening the raster at a path. -/
  | openRaster (path : String)
  /-- Making a dataset at a path by a driver. -/
  | makeDataset (driver path : String)
  /-- Asking for the size of the full resolution image. -/
  | sizeOf
  /-- Asking for the number of overviews. -/
  | overviewsOf
  /-- Asking for a level. -/
  | levelOf (index : Nat)
  /-- Asking for the transform. -/
  | transformOf
  /-- Asking for the spatial reference. -/
  | referenceOf
  /-- Writing a layer of the given blocks. -/
  | addLayer (name : String) (reference : Option SpatialReference)
      (blocks : List (BlockRectangle Float))
  /-- Completing the dataset. -/
  | finish

/-- An operation that can be made to fail. -/
inductive FailurePoint where
  /-- Opening the raster. -/
  | openRaster
  /-- Making the dataset. -/
  | makeDataset
  /-- Asking for the number of overviews. -/
  | overviewsOf
  /-- Asking for a level. -/
  | levelOf (index : Nat)
  /-- Writing a layer, by the number of layers written before. -/
  | addLayer (written : Nat)
  /-- Completing the dataset. -/
  | finish
deriving DecidableEq, Repr

/-- The name of a point of failure. -/
def FailurePoint.name : FailurePoint → String
  | .openRaster => "open"
  | .makeDataset => "create"
  | .overviewsOf => "overview_count"
  | .levelOf index => s!"level {index}"
  | .addLayer written => s!"layer {written}"
  | .finish => "close"

/-- A raster, and how access to it behaves. -/
structure RasterDescription where
  /-- The size and block size of each level. -/
  levels : List (Size × Size)
  /-- The transform of the full resolution image. -/
  geotransform : Geotransform Float
  /-- The spatial reference. -/
  spatialReference : Option SpatialReference
  /-- The number of overviews that is reported. -/
  overviewCount : Nat
  /-- The operation that fails, if any. -/
  failure : Option FailurePoint
  /-- The largest number of blocks of a layer that the dataset takes. -/
  capacity : Option Nat

namespace RasterDescription

/-- The size of the full resolution image. -/
def size (raster : RasterDescription) : Size :=
  (raster.levels.head?.map Prod.fst).getD ⟨0, 0⟩

/-- A level of the raster. -/
def level (raster : RasterDescription) (index : Nat) : Except Failure PyramidLevel :=
  match raster.levels[index]? with
  | none => .error (.noSuchLevel (signedWord 64 index) raster.overviewCount)
  | some (size, blockSize) =>
    match PyramidLevel.make index size blockSize with
    | .error fault => .error (.emptyLevel index fault)
    | .ok level => .ok level

/-- A level that the raster has is the one asked for. -/
theorem index_of_level {raster : RasterDescription} {index : Nat} {l : PyramidLevel}
    (h : raster.level index = .ok l) : l.index = index := by
  unfold level at h
  split at h
  · cases h
  · split at h
    · cases h
    · rename_i hmake
      cases h
      exact (PyramidLevel.eq_of_make hmake).1

/-- The blocks of a layer that the dataset takes. -/
def taken (raster : RasterDescription) (scan : BlockScan Float) :
    List (BlockRectangle Float) :=
  match raster.capacity with
  | none => scan.toList
  | some capacity => scan.take capacity

end RasterDescription

namespace Access

/-- The world of traced access: the operations so far. -/
abbrev Traced : Type → Type := StateM (List Operation)

/-- Keeps an operation. -/
def trace (operation : Operation) : Run Traced Unit :=
  Run.perform (modify (· ++ [operation]))

/-- Fails if this is the point at which the description says so. -/
def failAt (raster : RasterDescription) (point : FailurePoint) : Run Traced Unit :=
  if raster.failure = some point then
    throw (.other ("injected at " ++ point.name))
  else pure ()

/-- Access to a described raster.  Its dataset is the number of layers
written.  An operation is kept before it fails. -/
def traced (raster : RasterDescription) : Access Traced where
  Raster := Unit
  Dataset := Nat
  openRaster path := do
    trace (.openRaster path)
    failAt raster .openRaster
  makeDataset driver path := do
    trace (.makeDataset driver path)
    failAt raster .makeDataset
    return 0
  sizeOf _ := do
    trace .sizeOf
    return raster.size
  overviewsOf _ := do
    trace .overviewsOf
    failAt raster .overviewsOf
    return raster.overviewCount
  levelOf _ index := do
    trace (.levelOf index)
    failAt raster (.levelOf index)
    Run.ofExcept id (raster.level index)
  transformOf _ := do
    trace .transformOf
    return raster.geotransform
  referenceOf _ := do
    trace .referenceOf
    return raster.spatialReference
  addLayer written name reference scan := do
    let blocks := raster.taken scan
    trace (.addLayer name reference blocks)
    failAt raster (.addLayer written)
    return (blocks.length, written + 1)
  finish _ := do
    trace .finish
    failAt raster .finish

end Access

end BlockExtent
