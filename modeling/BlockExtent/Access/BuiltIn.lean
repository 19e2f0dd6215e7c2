import BlockExtent.Access
import BlockExtent.File.Store
import BlockExtent.GeoJson.Dataset
import BlockExtent.GeoTiff.Raster

/-!
# The built-in drivers

Rasters are GeoTIFF files, and vector datasets are GeoJSON.  Drivers of other formats
are no part of the model; any of them is a way of access like these.

## Main definitions

* `Access.builtIn` — access over a store of files.
* `Access.reportBuiltIn` — reports the built-in drivers.
-/

namespace BlockExtent.Access

variable {m : Type → Type} [Monad m]

/-- Text with its ASCII letters in lower case. -/
def lowerCase (s : String) : List Char := s.toList.map Char.toLower

/-- Whether a name is that of the GeoJSON driver, regardless of case. -/
def isGeoJson (driver : String) : Bool := lowerCase driver == lowerCase GeoJson.driverName

/-- Opens a GeoTIFF file. -/
def openGeoTiff (store : FileStore m) (path : String) : Run m GeoTiffRaster := do
  match ← Run.attempt .file (store.read path) with
  | .bytes content => GeoTiffRaster.read path (Tiff.ByteSource.ofFile content)
  | .unreadable cause => throw (.decode (.unreadable cause))

/-- Makes a GeoJSON dataset.  No other driver is built in. -/
def makeGeoJson (store : FileStore m) (driver path : String) :
    Run m (GeoJson.Dataset store.Handle) :=
  if isGeoJson driver then GeoJson.Dataset.create store path
  else throw (.driverNotBuiltIn driver)

/-- Access by the built-in drivers over a store of files. -/
def builtIn (store : FileStore m) : Access m where
  Raster := GeoTiffRaster
  Dataset := GeoJson.Dataset store.Handle
  openRaster := openGeoTiff store
  makeDataset := makeGeoJson store
  sizeOf raster := pure raster.size
  overviewsOf raster := pure raster.overviewCount
  levelOf raster index := Run.ofExcept id (raster.level index)
  transformOf raster := pure raster.geotransform
  referenceOf raster := pure raster.spatialReference
  addLayer dataset name reference scan :=
    dataset.writeLayer store name reference scan.toList
  finish dataset := dataset.close store

/-- Reports the built-in drivers. -/
def reportBuiltIn : Run m Unit :=
  Run.record
    { severity := .debug
      component := .registration
      message := "registered native drivers"
      fields := [("raster", .quoted "GTiff"), ("vector", .quoted GeoJson.driverName)] }

end BlockExtent.Access
