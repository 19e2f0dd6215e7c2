/-!
# The tags that are read

## Main definitions

* `Tag` — the fields of a directory that matter for the structure of a raster.
* `Tag.code` — the number of a tag in a directory entry.
* `Tag.name` — its name in messages.
-/

namespace BlockExtent.Tiff

/-- A field of a directory. -/
inductive Tag where
  /-- What kind of image the directory holds. -/
  | newSubfileType
  /-- The number of columns. -/
  | imageWidth
  /-- The number of rows. -/
  | imageLength
  /-- The number of bits of each sample. -/
  | bitsPerSample
  /-- How pixels are compressed. -/
  | compression
  /-- What samples mean. -/
  | photometricInterpretation
  /-- Where the strips are. -/
  | stripOffsets
  /-- The number of samples of a pixel. -/
  | samplesPerPixel
  /-- The number of rows of a strip. -/
  | rowsPerStrip
  /-- How long the strips are. -/
  | stripByteCounts
  /-- Whether the samples of a pixel are stored together. -/
  | planarConfiguration
  /-- What was done to pixels before they were compressed. -/
  | predictor
  /-- The number of columns of a tile. -/
  | tileWidth
  /-- The number of rows of a tile. -/
  | tileLength
  /-- Where the tiles are. -/
  | tileOffsets
  /-- How long the tiles are. -/
  | tileByteCounts
  /-- What kind of number each sample is. -/
  | sampleFormat
  /-- Tables that compressed pixels refer to. -/
  | jpegTables
  /-- The size of a pixel. -/
  | modelPixelScale
  /-- Pixel positions and what they are tied to. -/
  | modelTiepoint
  /-- A matrix from pixel positions. -/
  | modelTransformation
  /-- The GeoKeys. -/
  | geoKeyDirectory
  /-- The doubles that GeoKeys refer to. -/
  | geoDoubleParams
  /-- The text that GeoKeys refer to. -/
  | geoAsciiParams
deriving DecidableEq, Repr

/-- The number of a tag. -/
def Tag.code : Tag → Nat
  | .newSubfileType => 254
  | .imageWidth => 256
  | .imageLength => 257
  | .bitsPerSample => 258
  | .compression => 259
  | .photometricInterpretation => 262
  | .stripOffsets => 273
  | .samplesPerPixel => 277
  | .rowsPerStrip => 278
  | .stripByteCounts => 279
  | .planarConfiguration => 284
  | .predictor => 317
  | .tileWidth => 322
  | .tileLength => 323
  | .tileOffsets => 324
  | .tileByteCounts => 325
  | .sampleFormat => 339
  | .jpegTables => 347
  | .modelPixelScale => 33550
  | .modelTiepoint => 33922
  | .modelTransformation => 34264
  | .geoKeyDirectory => 34735
  | .geoDoubleParams => 34736
  | .geoAsciiParams => 34737

/-- The name of a tag. -/
def Tag.name : Tag → String
  | .newSubfileType => "NewSubfileType"
  | .imageWidth => "ImageWidth"
  | .imageLength => "ImageLength"
  | .bitsPerSample => "BitsPerSample"
  | .compression => "Compression"
  | .photometricInterpretation => "PhotometricInterpretation"
  | .stripOffsets => "StripOffsets"
  | .samplesPerPixel => "SamplesPerPixel"
  | .rowsPerStrip => "RowsPerStrip"
  | .stripByteCounts => "StripByteCounts"
  | .planarConfiguration => "PlanarConfiguration"
  | .predictor => "Predictor"
  | .tileWidth => "TileWidth"
  | .tileLength => "TileLength"
  | .tileOffsets => "TileOffsets"
  | .tileByteCounts => "TileByteCounts"
  | .sampleFormat => "SampleFormat"
  | .jpegTables => "JPEGTables"
  | .modelPixelScale => "ModelPixelScaleTag"
  | .modelTiepoint => "ModelTiepointTag"
  | .modelTransformation => "ModelTransformationTag"
  | .geoKeyDirectory => "GeoKeyDirectoryTag"
  | .geoDoubleParams => "GeoDoubleParamsTag"
  | .geoAsciiParams => "GeoAsciiParamsTag"

end BlockExtent.Tiff
