/-!
# Spatial references

## Main definitions

* `SpatialReference` — the coordinate reference system of a raster.
* `SpatialReference.epsg?` — its EPSG code, where it has one.
-/

namespace BlockExtent

/-- The coordinate reference system of a raster, handed on to every layer. -/
inductive SpatialReference where
  /-- A system of the EPSG registry. -/
  | epsg (code : Nat)
  /-- A system described by well-known text. -/
  | wellKnownText (text : String)
deriving DecidableEq, Repr, Inhabited

/-- The EPSG code of a reference; well-known text has none. -/
def SpatialReference.epsg? : SpatialReference → Option Nat
  | .epsg code => some code
  | .wellKnownText _ => none

end BlockExtent
