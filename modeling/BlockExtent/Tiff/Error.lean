import BlockExtent.File.Error
import BlockExtent.Tiff.Tag

/-!
# Why a file is not read as a GeoTIFF

## Main definitions

* `FormatFault` — what breaks the format.
* `UnsupportedFault` — what the format allows and the reader does not.
* `GeoKeyFault` — what makes a GeoKey directory malformed.
* `DecodeError` — any of these, or trouble with the data itself.
* `DecodeError.message` — the wording.
-/

namespace BlockExtent.Tiff

/-- What breaks the format. -/
inductive FormatFault where
  /-- The file does not start like a TIFF. -/
  | signatureNotFound
  /-- The version number after the byte order is unknown. -/
  | signatureInvalid
  /-- A directory is followed by one that was read before. -/
  | directoryCycle
  /-- A field has a type that its use does not allow. -/
  | invalidType
  /-- A text field is no text. -/
  | invalidTag
  /-- Counts that belong together differ. -/
  | inconsistentSizes
  /-- A required field is missing. -/
  | missingTag (tag : Tag)
  /-- The image holds no pixel. -/
  | emptyImage (width height : Nat)
  /-- A pixel holds no sample. -/
  | zeroSamples
  /-- A field holds values it must not hold. -/
  | unexpectedValue (tag : Tag)
  /-- The predictor is unknown. -/
  | unknownPredictor (value : Nat)
  /-- The planar configuration is unknown. -/
  | unknownPlanarConfiguration (value : Nat)
  /-- The image is stored neither in strips nor in tiles, or in both. -/
  | stripsAndTiles
deriving DecidableEq, Repr

/-- What a sample format number stands for. -/
inductive SampleFormat where
  /-- Unsigned numbers. -/
  | unsigned
  /-- Signed numbers. -/
  | signed
  /-- Floating point numbers. -/
  | floatingPoint
  /-- Data of any meaning. -/
  | void
  /-- A number that stands for nothing. -/
  | unknown (value : Nat)
deriving DecidableEq, Repr

/-- The format of a number. -/
def SampleFormat.ofCode : Nat → SampleFormat
  | 1 => .unsigned
  | 2 => .signed
  | 3 => .floatingPoint
  | 4 => .void
  | value => .unknown value

/-- The name of a format in messages. -/
def SampleFormat.name : SampleFormat → String
  | .unsigned => "Uint"
  | .signed => "Int"
  | .floatingPoint => "IEEEFP"
  | .void => "Void"
  | .unknown value => s!"Unknown({value})"

/-- What the format allows and the reader does not. -/
inductive UnsupportedFault where
  /-- The photometric interpretation is missing or unknown. -/
  | photometricInterpretation
  /-- The samples of a pixel differ in their formats. -/
  | sampleFormats (formats : List SampleFormat)
  /-- The samples of a pixel differ in their sizes, or have none. -/
  | bitsPerSample (bits : List Nat)
deriving DecidableEq, Repr

/-- Where a GeoKey's value is stored. -/
inductive GeoParams where
  /-- In the list of doubles. -/
  | doubles
  /-- In the text. -/
  | ascii
deriving DecidableEq, Repr

/-- What makes a GeoKey directory malformed. -/
inductive GeoKeyFault where
  /-- There are fewer than the four shorts of the header. -/
  | missingHeader
  /-- More keys are declared than there are entries for. -/
  | tooFewEntries (declared room : Nat)
  /-- A key's value lies outside the parameters it refers to. -/
  | outOfRange (key : Nat) (params : GeoParams)
  /-- A key's value is said to be in a tag that holds no parameters. -/
  | unsupportedLocation (key location : Nat)
deriving DecidableEq, Repr

/-- Why a file is not read as a GeoTIFF. -/
inductive DecodeError where
  /-- A read goes past the end of the data. -/
  | endOfData
  /-- The data cannot be read. -/
  | unreadable (cause : FileError)
  /-- The format is broken. -/
  | format (fault : FormatFault)
  /-- The file needs what the reader does not do. -/
  | unsupported (fault : UnsupportedFault)
  /-- The GeoKey directory is malformed. -/
  | geoKeys (fault : GeoKeyFault)
  /-- A field is larger than the reader is willing to load. -/
  | limitsExceeded
  /-- A number is larger than its use allows. -/
  | sizeExceeded
deriving DecidableEq, Repr

/-- A list in square brackets, its elements separated by a comma and a blank. -/
def bracketed (items : List String) : String :=
  "[" ++ String.intercalate ", " items ++ "]"

/-- The wording of a format fault. -/
def FormatFault.message : FormatFault → String
  | .signatureNotFound => "TIFF signature not found"
  | .signatureInvalid => "TIFF signature invalid"
  | .directoryCycle => "file contained a cycle in the list of IFDs"
  | .invalidType => "tag has invalid type"
  | .invalidTag => "image contains invalid tag"
  | .inconsistentSizes => "inconsistent sizes encountered"
  | .missingTag tag => s!"required tag `{tag.name}` not found"
  | .emptyImage width height => s!"invalid dimensions: {width}x{height}"
  | .zeroSamples => "samples per pixel is zero"
  | .unexpectedValue tag => s!"tag `{tag.name}` did not have the expected value type"
  | .unknownPredictor value => s!"unknown predictor “{value}” encountered"
  | .unknownPlanarConfiguration value => s!"unknown planar configuration “{value}”"
  | .stripsAndTiles =>
    "file should contain either (StripByteCounts and StripOffsets) or "
      ++ "(TileByteCounts and TileOffsets), other combination was found"

/-- The wording of an unsupported feature. -/
def UnsupportedFault.message : UnsupportedFault → String
  | .photometricInterpretation => "unknown photometric interpretation"
  | .sampleFormats formats =>
    "sample format " ++ bracketed (formats.map SampleFormat.name) ++ " is unsupported"
  | .bitsPerSample bits =>
    "inconsistent bits per sample: " ++ bracketed (bits.map toString)

/-- The name of a kind of parameters in messages. -/
def GeoParams.name : GeoParams → String
  | .doubles => "double params"
  | .ascii => "ascii params"

/-- The wording of a malformed GeoKey directory. -/
def GeoKeyFault.message : GeoKeyFault → String
  | .missingHeader => "missing header"
  | .tooFewEntries declared room => s!"{declared} keys declared, room for {room}"
  | .outOfRange key params => s!"key {key} points past {params.name}"
  | .unsupportedLocation key location =>
    s!"key {key} stored in unsupported tag {location}"

/-- The wording of a decoding error. -/
def DecodeError.message : DecodeError → String
  | .endOfData => "failed to fill whole buffer"
  | .unreadable cause => cause.message
  | .format fault => "format error: " ++ fault.message
  | .unsupported fault => "unsupported error: " ++ fault.message
  | .geoKeys fault => "GeoKeyDirectory: " ++ fault.message
  | .limitsExceeded => "decoder limits exceeded"
  | .sizeExceeded => "platform or format size limits exceeded"

end BlockExtent.Tiff
