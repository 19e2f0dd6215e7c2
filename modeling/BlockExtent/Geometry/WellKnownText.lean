import BlockExtent.Raster.Block
import BlockExtent.Number.General

/-!
# Well-known text of block rectangles

## Main definitions

* `wktPrecision` — the number of significant digits of a coordinate.
* `BlockRectangle.wellKnownText` — the rectangle as a polygon of its ring.
-/

namespace BlockExtent

/-- The number of significant digits of a coordinate.  Eighteen are enough to
tell any two binary64 numbers apart. -/
def wktPrecision : Nat := 18

/-- A position as `x y`. -/
def positionText (p : Float × Float) : String :=
  generalText p.1 wktPrecision ++ " " ++ generalText p.2 wktPrecision

/-- The rectangle as `POLYGON((x y,x y,x y,x y,x y))`. -/
def BlockRectangle.wellKnownText (r : BlockRectangle Float) : String :=
  "POLYGON((" ++ String.intercalate "," (r.ring.map positionText) ++ "))"

end BlockExtent
