import BlockExtent.GeoTiff.Page
import BlockExtent.Raster.PyramidLevel
import BlockExtent.Raster.LevelChoice
import BlockExtent.Raster.SpatialReference
import BlockExtent.Run
import BlockExtent.Tiff.Chain

/-!
# The raster of a GeoTIFF

The first full image of a file is the raster, and the reduced images after it
are its overviews, in the order of the file.  Masks, reduced images in front of
the raster and further full images are not part of it.

## Main definitions

* `GeoTiffRaster` — the raster, its overviews and its georeferencing.
* `pyramid?` — the raster and its overviews among the images of a file.
* `GeoTiffRaster.read` — reads the structure of a file.
* `GeoTiffRaster.level` — a level of the raster.
-/

namespace BlockExtent

open Tiff

/-- The structure of a GeoTIFF. -/
structure GeoTiffRaster where
  /-- The path it was opened by, for messages only. -/
  path : String
  /-- The full image. -/
  base : ImagePage
  /-- The overviews. -/
  overviews : List ImagePage
  /-- Where the pixels of the full image are. -/
  geotransform : Geotransform Float
  /-- The spatial reference, if it has an EPSG code. -/
  spatialReference : Option SpatialReference

/-- The first full image, and the reduced images after it. -/
def pyramid? : List ImagePage → Option (ImagePage × List ImagePage)
  | [] => none
  | image :: rest =>
    if image.reduced then pyramid? rest else some (image, rest.filter ImagePage.reduced)

namespace GeoTiffRaster

variable {m : Type → Type} [Monad m]

/-- The pages of a file, up to the first failure. -/
def pages (source : ByteSource) : Chain Page :=
  match Container.start source with
  | .error e => { visits := [], fault := some e }
  | .ok (file, first) =>
    Chain.follow file (fun loading d => Page.ofDirectory file d loading) first

/-- Reports a mask. -/
def reportMask (subfileType : Nat) : Run m Unit :=
  Run.record
    { severity := .debug
      component := .directories
      message := "skipping mask IFD"
      fields := [("subfile_type", .count subfileType)] }

/-- Reports the masks among the pages of a file, and the numbers of its pages if
all of them could be read. -/
def reportPages (chain : Chain Page) : Run m Unit := do
  (Page.masks chain.visits).forM reportMask
  match chain.fault with
  | some e => throw (.decode e)
  | none =>
    Run.record
      { severity := .debug
        component := .directories
        message := "scanned image file directories"
        fields :=
          [("images", .count (Page.images chain.visits).length),
            ("masks", .count (Page.masks chain.visits).length)] }

/-- The raster of the images of a file. -/
def ofImages (path : String) (images : List ImagePage) :
    Except Failure GeoTiffRaster :=
  match pyramid? images with
  | none => .error (.noFullImage path)
  | some (base, overviews) =>
    let geo := base.geo.getD {}
    let code := geo.keys.bind KeyDirectory.epsgCode?
    .ok
      { path, base, overviews
        geotransform := geo.geotransform
        spatialReference := code.map .epsg }

/-- Reports what was opened. -/
def reportOpened (raster : GeoTiffRaster) (masks : Nat) : Run m Unit :=
  let epsg := raster.spatialReference.bind SpatialReference.epsg?
  let citation :=
    raster.base.geo.bind (·.keys) |>.bind KeyDirectory.citationText?
  Run.record
    { severity := .debug
      component := .reader
      message := "opened GeoTIFF"
      fields :=
        [("path", .plain raster.path),
          ("width", .count raster.base.size.width),
          ("height", .count raster.base.size.height),
          ("overviews", .count raster.overviews.length),
          ("masks", .count masks),
          ("epsg", (epsg.map FieldValue.count).getD .absent),
          ("citation", (citation.map FieldValue.quoted).getD .absent)] }

/-- Reads the structure of a file.  The path is used in messages only. -/
def read (path : String) (source : ByteSource) : Run m GeoTiffRaster := do
  let chain := pages source
  reportPages chain
  let raster ← Run.ofExcept id (ofImages path (Page.images chain.visits))
  reportOpened raster (Page.masks chain.visits).length
  return raster

/-- The size of the full image. -/
def size (raster : GeoTiffRaster) : Size := raster.base.size

/-- The number of overviews. -/
def overviewCount (raster : GeoTiffRaster) : Nat := raster.overviews.length

/-- The image of a level: the full one, then the overviews. -/
def image? (raster : GeoTiffRaster) : (index : Nat) → Option ImagePage
  | 0 => some raster.base
  | index + 1 => raster.overviews[index]?

/-- A level of the raster. -/
def level (raster : GeoTiffRaster) (index : Nat) : Except Failure PyramidLevel :=
  match raster.image? index with
  | none => .error (.noSuchLevel (signedWord 64 index) raster.overviewCount)
  | some image =>
    match PyramidLevel.make index image.size image.blockSize with
    | .error fault => .error (.emptyLevel index fault)
    | .ok level => .ok level

end GeoTiffRaster

end BlockExtent
