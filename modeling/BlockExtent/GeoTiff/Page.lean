import BlockExtent.GeoTiff.Georeference
import BlockExtent.Tiff.Image

/-!
# Pages of a GeoTIFF

Each directory is a page: an image, full or reduced, or a transparency mask.

## Main definitions

* `ImagePage` — the structure of an image.
* `Page` — an image or a mask.
* `Page.ofDirectory` — the page of a directory.
-/

namespace BlockExtent

open Tiff

/-- The structure of an image. -/
structure ImagePage where
  /-- The size of the image. -/
  size : Size
  /-- The size of its blocks. -/
  blockSize : Size
  /-- Whether it is a reduced version of another image. -/
  reduced : Bool
  /-- The georeferencing tags, which are read for full images only. -/
  geo : Option (GeoreferenceTags Float)

/-- What a directory holds. -/
inductive Page where
  /-- An image. -/
  | image (page : ImagePage)
  /-- A transparency mask, with the kind of its directory. -/
  | mask (subfileType : Nat)

/-- The images among pages, in order. -/
def Page.images (pages : List Page) : List ImagePage :=
  pages.filterMap fun
    | .image page => some page
    | .mask _ => none

/-- The subfile types of the masks among pages, in order. -/
def Page.masks (pages : List Page) : List Nat :=
  pages.filterMap fun
    | .image _ => none
    | .mask subfileType => some subfileType

/-- The photometric interpretation of a mask. -/
def maskPhotometric : Nat := 4

namespace GeoreferenceTags

variable (file : Container) (d : Directory)

/-- The GeoKeys of a directory, with the parameters they refer to.  Parameters
without keys are not looked at. -/
def readKeys : Except DecodeError (Option KeyDirectory) := do
  match ← d.use? file .unlimited .geoKeyDirectory Value.toWords16 with
  | none => return none
  | some shorts =>
    let doubles ← d.use? file .unlimited .geoDoubleParams Value.toDoubles
    let ascii ← d.use? file .unlimited .geoAsciiParams Value.toText
    return some (← KeyDirectory.ofShorts shorts doubles ascii)

/-- The georeferencing tags of a directory. -/
def read : Except DecodeError (GeoreferenceTags Float) := do
  let pixelScale ← d.use? file .unlimited .modelPixelScale Value.toDoubles
  let tiepoints ← d.use? file .unlimited .modelTiepoint Value.toDoubles
  let transformation ← d.use? file .unlimited .modelTransformation Value.toDoubles
  let keys ← readKeys file d
  return { pixelScale, tiepoints, transformation, keys }

end GeoreferenceTags

namespace Page

variable (file : Container) (d : Directory)

/-- Whether a directory of the given kind holds a mask. -/
def isMask (subfileType : Nat) : Except DecodeError Bool :=
  if subfileType.testBit 2 then .ok true
  else do
    let photometric ← d.use? file .unlimited .photometricInterpretation Value.toWord16
    return photometric == some maskPhotometric

/-- The size of the blocks of an image.  A strip that is taller than the image
is a block as high as the image; a directory with a tile width is not cut. -/
def blockSize (image : Image) : Except DecodeError Size := do
  let chunk := image.chunkSize
  if (← d.field? file .unlimited .tileWidth).isSome then return chunk
  else return ⟨chunk.width, min chunk.height image.size.height⟩

/-- The page of a directory whose image has been checked. -/
def ofImage (image : Image) : Except DecodeError Page := do
  let subfileType :=
    (← d.use? file .unlimited .newSubfileType Value.toWord32).getD 0
  let reduced := subfileType.testBit 0
  if ← isMask file d subfileType then return .mask subfileType
  else
    let blockSize ← blockSize file d image
    let geo ← if reduced then pure none else some <$> GeoreferenceTags.read file d
    return .image { size := image.size, blockSize, reduced, geo }

/-- The page of a directory. -/
def ofDirectory (loading : Loading) : Except DecodeError Page := do
  ofImage file d (← Image.ofDirectory file loading d)

end Page

end BlockExtent
