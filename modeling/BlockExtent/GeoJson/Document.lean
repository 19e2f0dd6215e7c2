import BlockExtent.Json.Text
import BlockExtent.Raster.Block
import BlockExtent.Raster.SpatialReference

/-!
# Feature collections

A layer is written as a feature collection: one line for its head, one for each
feature, and one for its end.

## Main definitions

* `featureOf` — a block as a feature.
* `referenceMember?` — the member that names the spatial reference.
* `collectionText` — the text of a layer.
* `emptyCollectionText` — the text of a dataset without layers.
-/

namespace BlockExtent.GeoJson

/-- The EPSG code that positions have where none is given. -/
def defaultCode : Nat := 4326

/-- A position as an array. -/
def positionOf (p : Float × Float) : Json := .array [.number p.1, .number p.2]

/-- A block as a feature without properties, whose geometry is the polygon of its
ring. -/
def featureOf (block : BlockRectangle Float) : Json :=
  .object
    [("type", .string "Feature"),
      ("properties", .object []),
      ("geometry", .object
        [("type", .string "Polygon"),
          ("coordinates", .array [.array (block.ring.map positionOf)])])]

/-- The name of a reference with an EPSG code. -/
def referenceName (code : Nat) : String := s!"urn:ogc:def:crs:EPSG::{code}"

/-- The member that names the spatial reference: none for the default one, and
none for a reference without a code, which the format cannot express. -/
def referenceMember? (reference : Option SpatialReference) : Option Json :=
  ((reference.bind SpatialReference.epsg?).filter (· ≠ defaultCode)).map fun code =>
    .object
      [("properties", .object [("name", .string (referenceName code))]),
        ("type", .string "name")]

/-- The members in front of the features. -/
def headMembers (name : String) (reference : Option SpatialReference) :
    List (String × Json) :=
  [("type", .string "FeatureCollection"), ("name", .string name)]
    ++ ((referenceMember? reference).map fun value => ("crs", value)).toList

/-- Features on lines of their own, with commas between them. -/
def featureLines : List (BlockRectangle Float) → List Char
  | [] => []
  | [block] => '\n' :: (featureOf block).text
  | block :: blocks => '\n' :: (featureOf block).text ++ ',' :: featureLines blocks

/-- The text of a layer. -/
def collectionText (name : String) (reference : Option SpatialReference)
    (blocks : List (BlockRectangle Float)) : List Char :=
  '\x7b' :: Json.commaSeparated (Json.memberTexts (headMembers name reference))
    ++ ',' :: Json.stringText "features" ++ [':', '[']
    ++ featureLines blocks ++ ['\n', ']', '\x7d', '\n']

/-- The text of a dataset without layers. -/
def emptyCollectionText : List Char :=
  (Json.object [("type", .string "FeatureCollection"), ("features", .array [])]).text
    ++ ['\n']

/-- The bytes of a text. -/
def bytesOf (text : List Char) : ByteArray := (String.ofList text).toUTF8

end BlockExtent.GeoJson
