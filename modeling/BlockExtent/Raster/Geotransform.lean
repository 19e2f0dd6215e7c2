import BlockExtent.Coordinate
import BlockExtent.Raster.Size

/-!
# Geotransforms

The affine map from pixel corners `(column, row)` to georeferenced positions.

## Main definitions

* `Geotransform α` — the six coefficients.
* `Geotransform.apply` — the position of a pixel corner.
* `Geotransform.scaledTo` — the transform of a reduced level of the same raster.
-/

namespace BlockExtent

/-- The coefficients of
`x = originX + column * pixelWidth + row * rowRotation`,
`y = originY + column * columnRotation + row * pixelHeight`. -/
structure Geotransform (α : Type) where
  /-- The `x` of the corner of the first pixel. -/
  originX : α
  /-- The step in `x` from one column to the next. -/
  pixelWidth : α
  /-- The step in `x` from one row to the next. -/
  rowRotation : α
  /-- The `y` of the corner of the first pixel. -/
  originY : α
  /-- The step in `y` from one column to the next. -/
  columnRotation : α
  /-- The step in `y` from one row to the next, negative for a north-up raster. -/
  pixelHeight : α

namespace Geotransform

variable {α : Type} [Coordinate α]

/-- The transform of a raster that is not georeferenced: pixel corners stand for
themselves. -/
def identity : Geotransform α where
  originX := Coordinate.ofNat 0
  pixelWidth := Coordinate.ofNat 1
  rowRotation := Coordinate.ofNat 0
  originY := Coordinate.ofNat 0
  columnRotation := Coordinate.ofNat 0
  pixelHeight := Coordinate.ofNat 1

/-- Whether a rotation term differs from zero.  A term that is not a number
does. -/
def isRotated (t : Geotransform α) : Bool :=
  t.rowRotation != Coordinate.ofNat 0 || t.columnRotation != Coordinate.ofNat 0

/-- The georeferenced position of the corner `(column, row)`. -/
def apply (t : Geotransform α) (column row : α) : α × α :=
  (t.originX + column * t.pixelWidth + row * t.rowRotation,
    t.originY + column * t.columnRotation + row * t.pixelHeight)

/-- The transform of a level of size `level` of a raster of size `base` whose
transform is `t`.  Only the pixel size is scaled, so the result is exact for
unrotated rasters only.  Multiplying before dividing decides how the result is
rounded. -/
def scaledTo (t : Geotransform α) (base level : Size) : Geotransform α :=
  { t with
    pixelWidth :=
      t.pixelWidth * Coordinate.ofNat base.width / Coordinate.ofNat level.width
    pixelHeight :=
      t.pixelHeight * Coordinate.ofNat base.height / Coordinate.ofNat level.height }

/-- The transform with its origin moved back by half a pixel along both axes:
what names pixel centres becomes a name of pixel corners. -/
def centresToCorners (t : Geotransform α) : Geotransform α :=
  { t with
    originX := t.originX
      - (t.pixelWidth * Coordinate.half + t.rowRotation * Coordinate.half)
    originY := t.originY
      - (t.columnRotation * Coordinate.half + t.pixelHeight * Coordinate.half) }

end Geotransform

end BlockExtent
