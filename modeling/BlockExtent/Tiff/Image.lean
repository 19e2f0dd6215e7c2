import BlockExtent.Raster.Size
import BlockExtent.Tiff.Directory

/-!
# The image of a directory

A directory describes an image: its size, how its samples are stored, and the
strips or tiles that the file has it in.  Pixels are never read, but a directory
that contradicts itself is refused.

## Main definitions

* `Layout` — strips of whole rows, or tiles.
* `Image` — the size and layout of an image.
* `Image.ofDirectory` — the image of a directory.
-/

namespace BlockExtent.Tiff

/-- How an image is cut up. -/
inductive Layout where
  /-- Strips of so many rows each. -/
  | strips (rows : Nat)
  /-- Tiles of one size. -/
  | tiles (size : Size)
deriving DecidableEq, Repr

/-- The structure of an image. -/
structure Image where
  /-- Its size. -/
  size : Size
  /-- How it is cut up. -/
  layout : Layout
deriving DecidableEq, Repr

/-- The size of the pieces of an image.  A strip is as wide as the image. -/
def Image.chunkSize (image : Image) : Size :=
  match image.layout with
  | .strips rows => ⟨image.size.width, rows⟩
  | .tiles size => size

namespace Image

variable (file : Container) (loading : Loading) (d : Directory)

/-- The size, neither side of which may be zero. -/
def readSize : Except DecodeError Size := do
  let width ← d.require file loading .imageWidth Value.toWord32
  let height ← d.require file loading .imageLength Value.toWord32
  if width = 0 ∨ height = 0 then throw (.format (.emptyImage width height))
  return ⟨width, height⟩

/-- The photometric interpretation has to be a known one. -/
def checkPhotometric : Except DecodeError Unit := do
  match ← d.use? file loading .photometricInterpretation Value.toWord16 with
  | none => throw (.unsupported .photometricInterpretation)
  | some n =>
    if [0, 1, 2, 3, 4, 5, 6, 8].contains n then return ()
    else throw (.unsupported .photometricInterpretation)

/-- The number of the compression that needs tables of its own. -/
def jpegCompression : Nat := 7

/-- Any compression will do, but its tables have to be bytes. -/
def checkCompression : Except DecodeError Unit := do
  let compression ← d.use? file loading .compression Value.toWord16
  if compression = some jpegCompression then
    if let some tables ← d.use? file loading .jpegTables Value.toBytes then
      if tables.length < 2 then throw (.format (.unexpectedValue .jpegTables))

/-- The number of samples of a pixel, at least one. -/
def readSamples : Except DecodeError Nat := do
  let samples := (← d.use? file loading .samplesPerPixel Value.toWord16).getD 1
  if samples = 0 then throw (.format .zeroSamples)
  return samples

/-- Whether all elements of a list are equal. -/
def allEqual : List Nat → Bool
  | [] => true
  | n :: ns => ns.all (· == n)

/-- The samples of a pixel have to share their format. -/
def checkSampleFormat : Except DecodeError Unit := do
  if let some formats ← d.use? file loading .sampleFormat Value.toWords64 then
    if formats.any (wordCount 16 ≤ ·) then throw (.format (.unexpectedValue .sampleFormat))
    if allEqual formats = false then
      throw (.unsupported (.sampleFormats (formats.map SampleFormat.ofCode)))

/-- The samples of a pixel have to share their number of bits. -/
def checkBitsPerSample (samples : Nat) : Except DecodeError Unit := do
  let bits := (← d.use? file loading .bitsPerSample Value.toWords64).getD [1]
  if bits.any (wordCount 8 ≤ ·) then throw (.format (.unexpectedValue .bitsPerSample))
  if bits.length ≠ samples ∧ bits.length ≠ 1 then throw (.format .inconsistentSizes)
  if allEqual bits = false ∨ bits.head? = some 0 then
    throw (.unsupported (.bitsPerSample bits))

/-- The predictor has to be a known one. -/
def checkPredictor : Except DecodeError Unit := do
  if let some predictor ← d.use? file loading .predictor Value.toWord16 then
    if [1, 2, 3].contains predictor = false then
      throw (.format (.unknownPredictor predictor))

/-- The number of planes that the samples are stored in: one, or one for each
sample. -/
def readPlanes (samples : Nat) : Except DecodeError Nat := do
  match (← d.use? file loading .planarConfiguration Value.toWord16).getD 1 with
  | 1 => return 1
  | 2 => return samples
  | n => throw (.format (.unknownPlanarConfiguration n))

/-- The number of pieces of length `piece` that cover `length`. -/
def piecesCovering (length piece : Nat) : Nat := (length - 1) / piece + 1

/-- Strips: one offset and one byte count for each. -/
def readStrips (size : Size) (planes : Nat) : Except DecodeError Layout := do
  let offsets ← d.require file loading .stripOffsets Value.toWords64
  let counts ← d.require file loading .stripByteCounts Value.toWords64
  let rows := (← d.use? file loading .rowsPerStrip Value.toWord32).getD size.height
  if offsets.length ≠ counts.length ∨ rows = 0
      ∨ offsets.length ≠ wordMul 32 (piecesCovering size.height rows) planes then
    throw (.format .inconsistentSizes)
  return .strips rows

/-- Tiles: one offset and one byte count for each. -/
def readTiles (size : Size) (planes : Nat) : Except DecodeError Layout := do
  let width ← d.require file loading .tileWidth Value.toWord32
  let height ← d.require file loading .tileLength Value.toWord32
  if width = 0 then throw (.format (.unexpectedValue .tileWidth))
  if height = 0 then throw (.format (.unexpectedValue .tileLength))
  let offsets ← d.require file loading .tileOffsets Value.toWords64
  let counts ← d.require file loading .tileByteCounts Value.toWords64
  let tiles := wordMul 64 (piecesCovering size.height height) (piecesCovering size.width width)
  if offsets.length ≠ counts.length ∨ offsets.length ≠ wordMul 64 tiles planes then
    throw (.format .inconsistentSizes)
  return .tiles ⟨width, height⟩

/-- The layout, told by which offsets and byte counts are present. -/
def readLayout (size : Size) (planes : Nat) : Except DecodeError Layout :=
  match d.has .stripOffsets, d.has .stripByteCounts, d.has .tileOffsets,
      d.has .tileByteCounts with
  | true, true, false, false => readStrips file loading d size planes
  | false, false, true, true => readTiles file loading d size planes
  | _, _, _, _ => .error (.format .stripsAndTiles)

/-- The image of a directory. -/
def ofDirectory : Except DecodeError Image := do
  let size ← readSize file loading d
  checkPhotometric file loading d
  checkCompression file loading d
  let samples ← readSamples file loading d
  checkSampleFormat file loading d
  checkBitsPerSample file loading d samples
  checkPredictor file loading d
  let planes ← readPlanes file loading d samples
  let layout ← readLayout file loading d size planes
  return { size, layout }

end Image

end BlockExtent.Tiff
