import BlockExtent.Raster.BlockScan
import BlockExtent.Raster.SpatialReference
import BlockExtent.Run

/-!
# Access to datasets

A conversion reads a raster and writes a vector dataset through a few
operations, and knows nothing else of either.

## Main definitions

* `Access m` — how rasters are read and vector datasets are written in the world
  `m`.
-/

namespace BlockExtent

/-- How rasters are read and vector datasets are written. -/
structure Access (m : Type → Type) where
  /-- An opened raster. -/
  Raster : Type
  /-- A vector dataset that takes layers. -/
  Dataset : Type
  /-- Opens the raster at a path. -/
  openRaster : (path : String) → Run m Raster
  /-- Makes a vector dataset at a path by a driver. -/
  makeDataset : (driver path : String) → Run m Dataset
  /-- The size of the full resolution image. -/
  sizeOf : Raster → Run m Size
  /-- The number of overviews. -/
  overviewsOf : Raster → Run m Nat
  /-- A level: `0` for the full resolution image, `n` for the `n`-th overview. -/
  levelOf : Raster → (index : Nat) → Run m PyramidLevel
  /-- The transform of the full resolution image. -/
  transformOf : Raster → Run m (Geotransform Float)
  /-- The spatial reference, if there is one. -/
  referenceOf : Raster → Run m (Option SpatialReference)
  /-- Writes a layer.  Gives the number of features written, and the dataset
  afterwards. -/
  addLayer : Dataset → (name : String) → Option SpatialReference → BlockScan Float →
    Run m (Nat × Dataset)
  /-- Completes the dataset. -/
  finish : Dataset → Run m Unit

end BlockExtent
