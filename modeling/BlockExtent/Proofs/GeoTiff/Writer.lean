import BlockExtent.GeoTiff.Page
import BlockExtent.Proofs.Tiff.Directories
import BlockExtent.Raster.PyramidLevel

/-!
# Writing a GeoTIFF

A writer of pyramids makes a directory for each image: eight bits for each pixel,
tiles or strips that share one block of zeros, and georeferencing tags in the first
directory.

## Main definitions

* `WrittenImage`, `WrittenTags` — an image to be written, and its georeferencing.
* `WrittenImage.table` — the fields of its directory.
* `WrittenImage.page` — the page that a reader makes of it.
* `WrittenImage.bytes` — the bytes of its directory, with what stands in front.
* `fileBytes`, `fileSource` — the bytes of a file.
-/

namespace BlockExtent

open Tiff

/-- How an image to be written is cut up. -/
inductive Cut where
  /-- Square tiles of a side. -/
  | tiles (side : Nat)
  /-- Strips of so many rows each. -/
  | strips (rows : Nat)

/-- Georeferencing tags to be written. -/
structure WrittenTags where
  /-- The size of a pixel along each axis. -/
  pixelScale : Option (List Float) := none
  /-- Pixel positions with the georeferenced positions they are tied to. -/
  tiepoints : Option (List Float) := none
  /-- A matrix of four rows. -/
  transformation : Option (List Float) := none
  /-- A GeoKey directory, which is not written if it is empty. -/
  keys : List Nat := []

namespace WrittenTags

/-- The numbers of the GeoKey directory have 16 bits, and it is one that can be
read. -/
structure IsValid (tags : WrittenTags) : Prop where
  keys_lt : ∀ n ∈ tags.keys, n < 2 ^ 16
  keys_ok : tags.keys ≠ [] → (KeyDirectory.ofShorts tags.keys none none).isOk = true

/-- The GeoKeys that are read. -/
def keyDirectory? (tags : WrittenTags) : Option KeyDirectory :=
  if tags.keys = [] then none else (KeyDirectory.ofShorts tags.keys none none).toOption

/-- The georeferencing tags that are read. -/
def read (tags : WrittenTags) : GeoreferenceTags Float where
  pixelScale := tags.pixelScale
  tiepoints := tags.tiepoints
  transformation := tags.transformation
  keys := tags.keyDirectory?

end WrittenTags

/-- An image to be written. -/
structure WrittenImage where
  /-- What kind of image its directory holds. -/
  subfileType : Nat
  /-- What its samples mean. -/
  photometric : Nat
  /-- Its size. -/
  size : Size
  /-- How it is cut up. -/
  cut : Cut

namespace WrittenImage

/-- The size of a tile or strip. -/
def chunkSize (image : WrittenImage) : Size :=
  match image.cut with
  | .tiles side => ⟨side, side⟩
  | .strips rows => ⟨image.size.width, rows⟩

/-- The number of tiles or strips. -/
def chunks (image : WrittenImage) : Nat :=
  match image.cut with
  | .tiles side =>
    blocksCovering image.size.width side * blocksCovering image.size.height side
  | .strips rows => blocksCovering image.size.height rows

/-- The number of bytes of a tile or strip. -/
def chunkBytes (image : WrittenImage) : Nat := image.chunkSize.width * image.chunkSize.height

/-- The size of a block: a strip ends where the image does. -/
def blockSize (image : WrittenImage) : Size :=
  match image.cut with
  | .tiles side => ⟨side, side⟩
  | .strips rows => ⟨image.size.width, min rows image.size.height⟩

/-- What can be written: numbers of 32 bits, sizes that are not zero, samples that
are shades or a mask, and no more tiles or strips than are loaded. -/
structure IsValid (image : WrittenImage) : Prop where
  subfileType_lt : image.subfileType < 2 ^ 32
  photometric_eq : image.photometric = 1 ∨ image.photometric = 4
  width_pos : 0 < image.size.width
  width_lt : image.size.width < 2 ^ 32
  height_pos : 0 < image.size.height
  height_lt : image.size.height < 2 ^ 32
  chunk_pos : 0 < image.chunkSize.height
  chunk_lt : image.chunkSize.height < 2 ^ 32
  chunks_le : image.chunks ≤ 8388608

/-- A transparency mask. -/
def IsMask (image : WrittenImage) : Prop :=
  image.subfileType.testBit 2 = true ∨ image.photometric = 4

instance (image : WrittenImage) : Decidable image.IsMask :=
  inferInstanceAs (Decidable (_ ∨ _))

/-- A full-resolution image. -/
def IsFull (image : WrittenImage) : Prop :=
  ¬ image.IsMask ∧ image.subfileType.testBit 0 = false

instance (image : WrittenImage) : Decidable image.IsFull :=
  inferInstanceAs (Decidable (_ ∧ _))

/-- A reduced image. -/
def IsOverview (image : WrittenImage) : Prop :=
  ¬ image.IsMask ∧ image.subfileType.testBit 0 = true

instance (image : WrittenImage) : Decidable image.IsOverview :=
  inferInstanceAs (Decidable (_ ∧ _))

/-- The fields of the directory of an image, whose block stands at a position. -/
def table (image : WrittenImage) (tags : WrittenTags) (block : Nat) : Tag → Option FieldData
  | .newSubfileType => some (.longs [image.subfileType])
  | .imageWidth => some (.longs [image.size.width])
  | .imageLength => some (.longs [image.size.height])
  | .bitsPerSample => some (.shorts [8])
  | .compression => some (.shorts [1])
  | .photometricInterpretation => some (.shorts [image.photometric])
  | .samplesPerPixel => some (.shorts [1])
  | .planarConfiguration => some (.shorts [1])
  | .stripOffsets =>
    match image.cut with
    | .tiles _ => none
    | .strips _ => some (.longs (List.replicate image.chunks block))
  | .rowsPerStrip =>
    match image.cut with
    | .tiles _ => none
    | .strips rows => some (.longs [rows])
  | .stripByteCounts =>
    match image.cut with
    | .tiles _ => none
    | .strips _ => some (.longs (List.replicate image.chunks image.chunkBytes))
  | .tileWidth =>
    match image.cut with
    | .tiles side => some (.longs [side])
    | .strips _ => none
  | .tileLength =>
    match image.cut with
    | .tiles side => some (.longs [side])
    | .strips _ => none
  | .tileOffsets =>
    match image.cut with
    | .tiles _ => some (.longs (List.replicate image.chunks block))
    | .strips _ => none
  | .tileByteCounts =>
    match image.cut with
    | .tiles _ => some (.longs (List.replicate image.chunks image.chunkBytes))
    | .strips _ => none
  | .modelPixelScale => tags.pixelScale.map .doubles
  | .modelTiepoint => tags.tiepoints.map .doubles
  | .modelTransformation => tags.transformation.map .doubles
  | .geoKeyDirectory => if tags.keys = [] then none else some (.shorts tags.keys)
  | _ => none

/-- The structure of an image with tags, which are read for full images only. -/
def imagePage (image : WrittenImage) (tags : WrittenTags) : ImagePage where
  size := image.size
  blockSize := image.blockSize
  reduced := image.subfileType.testBit 0
  geo := if image.subfileType.testBit 0 then none else some tags.read

/-- The page that a reader makes of an image with tags. -/
def page (image : WrittenImage) (tags : WrittenTags) : Page :=
  if image.IsMask then .mask image.subfileType else .image (image.imagePage tags)

/-! ### Positions -/

variable (image : WrittenImage) (tags : WrittenTags) (position : Nat)

/-- The zeros that fill up a word. -/
def padding : Nat := (4 - position % 4) % 4

/-- The position of the block of an image that is written from a position on. -/
def blockAt : Nat := position + padding position

/-- The fields of its directory. -/
def fields : List Field := fieldsOf (image.table tags (blockAt position))

/-- The position of the payloads of the fields. -/
def payloadsAt : Nat := blockAt position + image.chunkBytes

/-- The position of the directory. -/
def directoryAt : Nat :=
  image.payloadsAt position + (payloads (image.fields tags position)).length

/-- The position behind the directory. -/
def endAt : Nat := image.directoryAt tags position + (12 * (image.fields tags position).length + 6)

/-- The bytes of an image: its block, the payloads and the directory. -/
def bytes (next : Nat) : List UInt8 :=
  List.replicate (padding position) 0
    ++ (List.replicate image.chunkBytes 0
      ++ (payloads (image.fields tags position)
        ++ directoryBytes (image.payloadsAt position) (image.fields tags position) next))

end WrittenImage

/-- The position of the directory of the first image that is written from a position
on, or zero if there is none. -/
def firstAt (images : List WrittenImage) (tags : WrittenTags) (position : Nat) : Nat :=
  match images with
  | [] => 0
  | image :: _ => image.directoryAt tags position

/-- The bytes of images from a position on.  Only the first one has tags. -/
def imagesBytes : (images : List WrittenImage) → WrittenTags → (position : Nat) → List UInt8
  | [], _, _ => []
  | image :: images, tags, position =>
    image.bytes tags position (firstAt images {} (image.endAt tags position))
      ++ imagesBytes images {} (image.endAt tags position)

/-- The bytes of a file: the byte order, the version, the position of the first
directory, and the images. -/
def fileBytes (images : List WrittenImage) (tags : WrittenTags) : List UInt8 :=
  [0x49, 0x49] ++ (littleBytes 2 42 ++ (littleBytes 4 (firstAt images tags 8)
    ++ imagesBytes images tags 8))

/-- A written file in memory. -/
def fileSource (images : List WrittenImage) (tags : WrittenTags) : ByteSource :=
  .ofMemory ⟨(fileBytes images tags).toArray⟩

end BlockExtent
