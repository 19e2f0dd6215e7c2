import BlockExtent.Access.Traced

/-!
# Recorded access

Any way of opening rasters and writing datasets can be watched: each call is kept
with the error it answers, and one call can be made to fail instead of being passed
on.

## Main definitions

* `RasterAnswers` — what an opened raster answers.
* `Backend` — how rasters are opened and datasets are written in a world of states.
* `RasterDescription.backend` — access to a raster that is only described.
* `Call` — an operation asked for, and the error it answered.
* `FailurePoint.isAt` — whether a call is the one that is to fail.
* `Backend.recorded` — access that keeps its calls.
-/

namespace BlockExtent

/-- What an opened raster answers.  A level it gives is the one asked for, and the
number of its overviews fits a signed 64-bit word. -/
structure RasterAnswers where
  /-- The size of the full resolution image. -/
  size : Size
  /-- The number of overviews. -/
  overviews : Except Failure Nat
  /-- The transform of the full resolution image. -/
  geotransform : Geotransform Float
  /-- The spatial reference. -/
  spatialReference : Option SpatialReference
  /-- A level. -/
  level : (index : Nat) → Except Failure PyramidLevel
  /-- The number of overviews has 63 bits. -/
  overviews_lt : ∀ count, overviews = .ok count → count < wordCount 63
  /-- A level is the one asked for. -/
  index_of_level : ∀ index l, level index = .ok l → l.index = index

/-- How rasters are opened and datasets are written in a world whose states are
`σ`. -/
structure Backend (σ : Type) where
  /-- A vector dataset that takes layers. -/
  Dataset : Type
  /-- Opens the raster at a path. -/
  openRaster : (path : String) → StateM σ (Except Failure RasterAnswers)
  /-- Makes a vector dataset at a path by a driver. -/
  makeDataset : (driver path : String) → StateM σ (Except Failure Dataset)
  /-- Writes a layer.  Gives the number of features and the dataset afterwards. -/
  addLayer : Dataset → (name : String) → Option SpatialReference → BlockScan Float →
    StateM σ (Except Failure (Nat × Dataset))
  /-- Completes the dataset. -/
  finish : Dataset → StateM σ (Except Failure Unit)

namespace RasterDescription

/-- What a described raster answers, if the number of its overviews has 63 bits. -/
def answers (raster : RasterDescription) (hcount : raster.overviewCount < wordCount 63) :
    RasterAnswers where
  size := raster.size
  overviews := .ok raster.overviewCount
  geotransform := raster.geotransform
  spatialReference := raster.spatialReference
  level := raster.level
  overviews_lt := by
    rintro _ ⟨⟩
    exact hcount
  index_of_level _ _ := index_of_level

end RasterDescription

/-- A call: an operation asked for, and the error it answered, if any. -/
structure Call where
  /-- The operation. -/
  operation : Operation
  /-- The error. -/
  error : Option Failure

/-- Whether an operation writes a layer. -/
def Operation.isAddLayer : Operation → Bool
  | .addLayer _ _ _ => true
  | _ => false

namespace FailurePoint

/-- Whether an operation, asked for after some calls, is at a point of failure. -/
def isAt (point : FailurePoint) (before : List Call) (operation : Operation) : Bool :=
  match point, operation with
  | .openRaster, .openRaster _ => true
  | .makeDataset, .makeDataset _ _ => true
  | .overviewsOf, .overviewsOf => true
  | .levelOf index, .levelOf asked => index == asked
  | .addLayer written, .addLayer _ _ _ =>
    before.countP (fun call => call.operation.isAddLayer) == written
  | .finish, .finish => true
  | _, _ => false

/-- The failure at a point. -/
def failure (point : FailurePoint) : Failure := .other ("injected at " ++ point.name)

end FailurePoint

namespace Backend

variable {σ α : Type}

/-- The error of an answer. -/
def errorOf : Except Failure α → Option Failure
  | .ok _ => none
  | .error cause => some cause

/-- Asks for an operation and keeps the call.  At the point of failure the operation
is not passed on. -/
def call (point : Option FailurePoint) (operation : Operation)
    (answer : StateM σ (Except Failure α)) : Run (StateM (σ × List Call)) α :=
  Run.attempt id fun (s, calls) =>
    match point.filter fun point => point.isAt calls operation with
    | some point => (.error point.failure, (s, calls ++ [⟨operation, some point.failure⟩]))
    | none =>
      let (result, s') := answer s
      (result, (s', calls ++ [⟨operation, errorOf result⟩]))

end Backend

end BlockExtent
