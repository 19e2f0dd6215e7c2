import BlockExtent.File.Path
import BlockExtent.Run
import BlockExtent.Text.SplitLast

/-!
# Which driver writes a dataset

The name of a dataset tells the driver that can create it: by a connection
scheme in front, or by its extension without regard to case.

## Main definitions

* `DatasetKind` — rasters and vector datasets.
* `driverExtension?` — the extension that a driver is looked up by.
* `driversFor` — the drivers that can create a dataset, best match first.
* `chooseDriver` — the driver to create it with.
-/

namespace BlockExtent

/-- What a dataset holds. -/
inductive DatasetKind where
  /-- An image. -/
  | raster
  /-- Layers of features. -/
  | vector
deriving DecidableEq, Repr

/-- Drivers of databases, by the scheme that a connection starts with. -/
def connectionDrivers : List (String × String) :=
  [("PG:", "PostgreSQL"), ("MySQL:", "MySQL"), ("OCI:", "OCI")]

/-- The drivers that create datasets of a kind, by extension. -/
def DatasetKind.driverTable : DatasetKind → List (String × List String)
  | .vector =>
    [("shp", ["ESRI Shapefile"]), ("dbf", ["ESRI Shapefile"]),
      ("shp.zip", ["ESRI Shapefile"]), ("gpkg", ["GPKG"]), ("gpkg.zip", ["GPKG"]),
      ("geojson", ["GeoJSON"]), ("json", ["GeoJSON"]), ("geojsonl", ["GeoJSONSeq"]),
      ("geojsons", ["GeoJSONSeq"]), ("fgb", ["FlatGeobuf"]),
      ("kml", ["KML", "LIBKML"]), ("kmz", ["LIBKML"]), ("gml", ["GML"]),
      ("gpx", ["GPX"]), ("csv", ["CSV"]), ("sqlite", ["SQLite"]), ("db", ["SQLite"]),
      ("tab", ["MapInfo File"]), ("mif", ["MapInfo File"]), ("dxf", ["DXF"]),
      ("jml", ["JML"]), ("parquet", ["Parquet"]), ("arrow", ["Arrow"]),
      ("arrows", ["Arrow"]), ("feather", ["Arrow"]), ("ipc", ["Arrow"]),
      ("xlsx", ["XLSX"]), ("ods", ["ODS"])]
  | .raster =>
    [("tif", ["GTiff", "COG"]), ("tiff", ["GTiff", "COG"]), ("vrt", ["VRT"]),
      ("png", ["PNG"]), ("jpg", ["JPEG"]), ("jpeg", ["JPEG"]), ("img", ["HFA"]),
      ("nc", ["netCDF"]), ("gpkg", ["GPKG"]), ("mbtiles", ["MBTiles"]),
      ("jp2", ["JP2OpenJPEG"]), ("webp", ["WEBP"]), ("asc", ["AAIGrid"]),
      ("ers", ["ERS"]), ("bmp", ["BMP"])]

/-- The driver of a dataset without a name, which lives in memory. -/
def DatasetKind.memoryDriver : DatasetKind → String
  | .raster => "MEM"
  | .vector => "Memory"

/-- The driver of a dataset without an extension. -/
def DatasetKind.defaultDriver : DatasetKind → String
  | .raster => "GTiff"
  | .vector => "ESRI Shapefile"

/-- The extension of a file name that a driver is looked up by: what follows the
last dot, together with the extension in front of it if it is `zip`. -/
def nameExtension? (name : List Char) : Option (List Char) :=
  match splitLast '.' name with
  | none | some (_, []) => none
  | some (stem, last) =>
    if last = ['z', 'i', 'p'] then
      match splitLast '.' stem with
      | some (_, c :: cs) => some (c :: cs ++ ['.', 'z', 'i', 'p'])
      | _ => some last
    else some last

/-- The extension that a driver is looked up by, in lower case. -/
def driverExtension? (path : String) : Option String :=
  (Path.fileName? path).bind fun name =>
    (nameExtension? (name.toList.map Char.toLower)).map String.ofList

/-- The drivers that can create a dataset, best match first. -/
def driversFor (kind : DatasetKind) (path : String) : List String :=
  let scheme : Option (String × String) :=
    match kind with
    | .raster => none
    | .vector => connectionDrivers.find? fun entry => entry.1.toList.isPrefixOf path.toList
  match scheme with
  | some (_, driver) => [driver]
  | none =>
    match driverExtension? path with
    | none => []
    | some extension => (kind.driverTable.lookup extension).getD []

variable {m : Type → Type} [Monad m]

/-- Reports a choice between several drivers.  That GeoTIFF comes before its
cloud optimised variant needs no report. -/
def reportAmbiguity (path first : String) (drivers : List String) : Run m Unit :=
  if 1 < drivers.length ∧ drivers.take 2 ≠ ["GTiff", "COG"] then
    let extension := (driverExtension? path).getD ""
    Run.record
      { severity := .warn
        component := .driverChoice
        message := s!"Several drivers matching {extension} extension. Using {first}"
        fields := [] }
  else pure ()

/-- The driver to create a dataset with when none is given. -/
def chooseDriver (kind : DatasetKind) (path : String) : Run m String := do
  if path = "" then return kind.memoryDriver
  match driversFor kind path with
  | [] =>
    match driverExtension? path with
    | none => return kind.defaultDriver
    | some _ => throw (.unknownExtension path)
  | first :: others =>
    reportAmbiguity path first (first :: others)
    Run.record
      { severity := .debug
        component := .driverChoice
        message := "inferred output driver"
        fields := [("path", .plain path), ("driver", .quoted first)] }
    return first

end BlockExtent
