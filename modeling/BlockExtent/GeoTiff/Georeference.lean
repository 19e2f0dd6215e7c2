import BlockExtent.GeoTiff.KeyDirectory
import BlockExtent.Raster.Geotransform

/-!
# Georeferencing by tags

A GeoTIFF says where its pixels are by a matrix, or by a tie point and the size
of a pixel.  Either names corners or centres of pixels.

## Main definitions

* `GeoreferenceTags α` — the georeferencing tags of an image.
* `GeoreferenceTags.geotransform` — the transform they describe.
-/

namespace BlockExtent

/-- The georeferencing tags of an image. -/
structure GeoreferenceTags (α : Type) where
  /-- The size of a pixel along each axis. -/
  pixelScale : Option (List α) := none
  /-- Pixel positions with the georeferenced positions they are tied to. -/
  tiepoints : Option (List α) := none
  /-- A matrix of four rows, from pixel positions to georeferenced ones. -/
  transformation : Option (List α) := none
  /-- The GeoKeys. -/
  keys : Option KeyDirectory := none

namespace GeoreferenceTags

variable {α : Type} [Coordinate α]

/-- The transform of a matrix, if it is complete. -/
def ofMatrix? : List α → Option (Geotransform α)
  | m0 :: m1 :: _ :: m3 :: m4 :: m5 :: _ :: m7
      :: _ :: _ :: _ :: _ :: _ :: _ :: _ :: _ :: _ =>
    some
      { originX := m3
        pixelWidth := m0
        rowRotation := m1
        originY := m7
        columnRotation := m4
        pixelHeight := m5 }
  | _ => none

/-- The transform of the first tie point and the size of a pixel, if both are
complete.  Rows are counted downwards, so the height of a pixel is negative. -/
def ofTiepoint? : (tiepoints scale : List α) → Option (Geotransform α)
  | column :: row :: _ :: x :: y :: _ :: _, width :: height :: _ =>
    some
      { originX := x - column * width
        pixelWidth := width
        rowRotation := Coordinate.ofNat 0
        originY := y - row * -height
        columnRotation := Coordinate.ofNat 0
        pixelHeight := -height }
  | _, _ => none

/-- The transform that the tags name, be it of corners or of centres. -/
def named? (tags : GeoreferenceTags α) : Option (Geotransform α) :=
  tags.transformation.bind ofMatrix? <|>
    tags.tiepoints.bind fun points => tags.pixelScale.bind (ofTiepoint? points)

/-- Whether positions name the centres of pixels. -/
def namesCentres (tags : GeoreferenceTags α) : Bool := tags.keys.any KeyDirectory.pixelsArePoints

/-- The transform of pixel corners.  An image without complete tags is not
georeferenced. -/
def geotransform (tags : GeoreferenceTags α) : Geotransform α :=
  match tags.named? with
  | none => .identity
  | some t => if tags.namesCentres then t.centresToCorners else t

end GeoreferenceTags

end BlockExtent
