import BlockExtent.Access
import BlockExtent.CommandLine.Arguments
import BlockExtent.DriverChoice

/-!
# Converting a raster into layers of block extents

Each chosen level of a raster becomes a layer, with one rectangle for each
block.  The first failure ends the conversion; the layers written before stay.

## Main definitions

* `WrittenLayer`, `Written` — what was written.
* `writeChosen` — writes the chosen levels of a raster.
* `convert` — opens, writes and completes.
-/

namespace BlockExtent

/-- A level that was written. -/
structure WrittenLayer where
  /-- The name of the layer. -/
  name : String
  /-- The level. -/
  level : Nat
  /-- The size of the level. -/
  size : Size
  /-- The size of its blocks. -/
  blockSize : Size
  /-- The number of features. -/
  features : Nat
deriving DecidableEq, Repr

/-- What was written. -/
structure Written where
  /-- The driver used. -/
  driver : String
  /-- The layers, in order. -/
  layers : List WrittenLayer
deriving DecidableEq, Repr

/-- The number of features of all layers, added up in a word. -/
def Written.features (written : Written) : Nat :=
  written.layers.foldl (fun count layer => wordAdd count layer.features) 0

variable {m : Type → Type} [Monad m]

/-- What the levels of a raster have in common. -/
structure RasterFrame where
  /-- The size of the full resolution image. -/
  size : Size
  /-- Its transform. -/
  geotransform : Geotransform Float
  /-- The spatial reference. -/
  spatialReference : Option SpatialReference

/-- The blocks of a level, in the transform scaled to it. -/
def RasterFrame.blocks (frame : RasterFrame) (level : PyramidLevel) : BlockScan Float :=
  .ofLevel level (frame.geotransform.scaledTo frame.size level.size)

/-- Warns of overviews whose extents will be off, because the transform is
rotated. -/
def warnOfRotation (t : Geotransform Float) (levels : List Int) : Run m Unit :=
  if t.isRotated ∧ levels.any (· ≠ 0) then
    Run.record
      { severity := .warn
        component := .conversion
        message := "geotransform is rotated, overview block extents ignore rotation"
        fields :=
          [("row_rotation", .number t.rowRotation),
            ("col_rotation", .number t.columnRotation)] }
  else pure ()

/-- Reports a layer. -/
def reportLayer (level : PyramidLevel) (features : Nat) : Run m Unit :=
  Run.record
    { severity := .info
      component := .conversion
      message := "wrote layer"
      fields :=
        [("layer", .plain (layerName level.index)),
          ("width", .count level.size.width),
          ("height", .count level.size.height),
          ("block_width", .count level.blockSize.width),
          ("block_height", .count level.blockSize.height),
          ("blocks_x", .count level.grid.across),
          ("blocks_y", .count level.grid.down),
          ("features", .count features)] }

namespace Conversion

variable (access : Access m) (raster : access.Raster) (frame : RasterFrame)

/-- Writes a level.  There is no level below zero. -/
def writeLevel (dataset : access.Dataset) :
    (level : Int) → Run m (WrittenLayer × access.Dataset)
  | .negSucc n => do
    let count ← access.overviewsOf raster
    throw (.noSuchLevel (.negSucc n) count)
  | .ofNat index => do
    let level ← access.levelOf raster index
    let name := layerName level.index
    let (features, dataset) ←
      access.addLayer dataset name frame.spatialReference (frame.blocks level)
    reportLayer level features
    let layer : WrittenLayer :=
      { name, level := index, size := level.size, blockSize := level.blockSize, features }
    return (layer, dataset)

/-- Writes levels one after the other. -/
def writeEach (dataset : access.Dataset) :
    List Int → Run m (List WrittenLayer × access.Dataset)
  | [] => pure ([], dataset)
  | level :: levels => do
    let (layer, dataset) ← writeLevel access raster frame dataset level
    let (layers, dataset) ← writeEach dataset levels
    return (layer :: layers, dataset)

end Conversion

/-- The levels to write.  The number of overviews is asked for only if it
matters. -/
def chosenLevels (access : Access m) (raster : access.Raster) :
    LevelChoice → Run m (List Int)
  | .all => do return LevelChoice.all.levels (← access.overviewsOf raster)
  | .single level => return [level]

/-- Writes the chosen levels of a raster. -/
def writeChosen (access : Access m) (raster : access.Raster) (dataset : access.Dataset)
    (choice : LevelChoice) : Run m (List WrittenLayer × access.Dataset) := do
  let levels ← chosenLevels access raster choice
  let size ← access.sizeOf raster
  let geotransform ← access.transformOf raster
  warnOfRotation geotransform levels
  let spatialReference ← access.referenceOf raster
  Conversion.writeEach access raster { size, geotransform, spatialReference } dataset levels

/-- The driver that a conversion writes with. -/
def driverOf (settings : Settings) : Run m String :=
  match settings.format with
  | some driver => pure driver
  | none => chooseDriver .vector settings.output

/-- Reports what was opened. -/
def reportOpen (settings : Settings) (driver : String) : Run m Unit :=
  Run.record
    { severity := .debug
      component := .conversion
      message := "opened datasets"
      fields :=
        [("input", .plain settings.input), ("output", .plain settings.output),
          ("driver", .plain driver)] }

/-- Converts a raster: the driver is settled first, then the raster is opened and
the dataset made. -/
def convert (access : Access m) (settings : Settings) : Run m Written := do
  let driver ← driverOf settings
  let raster ← access.openRaster settings.input
  let dataset ← access.makeDataset driver settings.output
  reportOpen settings driver
  let (layers, dataset) ← writeChosen access raster dataset settings.choice
  access.finish dataset
  return { driver, layers }

end BlockExtent
