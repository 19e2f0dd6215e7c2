import BlockExtent.Raster.Geotransform

/-!
# The rectangle of a block

## Main definitions

* `BlockRectangle α` — the georeferenced rectangle that a block covers.
* `BlockRectangle.ofBlock` — the rectangle of block `(column, row)`.
* `BlockRectangle.ring` — its outline as a closed ring.
-/

namespace BlockExtent

/-- The rectangle covered by one block.  `yMax` is the edge of the block's first
row and `yMin` the edge after its last row, so for the usual negative pixel
height `yMin < yMax`. -/
structure BlockRectangle (α : Type) where
  /-- The level of the block. -/
  level : Nat
  /-- The position of the block in its row of blocks. -/
  column : Nat
  /-- The row of blocks it stands in. -/
  row : Nat
  /-- The edge of its first column. -/
  xMin : α
  /-- The edge after its last row. -/
  yMin : α
  /-- The edge after its last column. -/
  xMax : α
  /-- The edge of its first row. -/
  yMax : α

namespace BlockRectangle

variable {α : Type}

/-- The rectangle of block `(column, row)` of a level with the given transform
and block size.  Rotation is ignored.  The far edges are computed from the near
ones.  The first pixel of a block in the grid lies in its level, so that both
products fit a word. -/
def ofBlock [Coordinate α] (level : Nat) (t : Geotransform α) (block : Size)
    (column row : Nat) : BlockRectangle α :=
  let yMax := t.originY + Coordinate.ofNat (row * block.height) * t.pixelHeight
  let xMin := t.originX + Coordinate.ofNat (column * block.width) * t.pixelWidth
  { level, column, row, xMin, yMax
    yMin := yMax + Coordinate.ofNat block.height * t.pixelHeight
    xMax := xMin + Coordinate.ofNat block.width * t.pixelWidth }

/-- The closed outer ring: up the first edge, along, down and back. -/
def ring (r : BlockRectangle α) : List (α × α) :=
  [(r.xMin, r.yMin), (r.xMin, r.yMax), (r.xMax, r.yMax), (r.xMax, r.yMin),
    (r.xMin, r.yMin)]

end BlockRectangle

end BlockExtent
