import BlockExtent.Proofs.GeoTiff.Writer

/-!
# Pages read back

A directory that has the fields of a written image passes every check, and the page
made of it is that of the image.

## Main definitions

* `HasTable` — a directory has the fields of a table.
* `WrittenImage.IsWritable` — an image can be written, whatever the number of its tiles.
* `WrittenImage.IsLoaded` — its tiles are few enough to be loaded.

## Main results

* `WrittenImage.imageOfDirectory_eq` — the image of the directory of a written image.
* `WrittenImage.pageOfDirectory_eq` — the page of the directory of a written image.
-/

namespace BlockExtent

open Tiff

/-! ### Uses of written values -/

namespace Tiff.FieldData

theorem toWord32_longs {n : Nat} (h : n < 2 ^ 32) : (longs [n]).value.toWord32 = .ok n :=
  if_pos h

theorem toWord16_shorts {n : Nat} (h : n < 2 ^ 16) : (shorts [n]).value.toWord16 = .ok n :=
  if_pos h

/-- A value whose elements can be used is a list that can be used.  A single element is
used by itself. -/
private theorem use_value_eq_ok {α : Type} {data : FieldData} {as : List α} {element : α → Scalar}
    {use : Value → Except DecodeError (List α)} {useElement : Scalar → Except DecodeError α}
    (hdata : data.scalars = as.map element)
    (hsingle : ∀ a ∈ as, use (.scalar (element a)) = .ok [a])
    (hlist : ∀ elements, use (.list elements) = elements.mapM useElement)
    (helement : ∀ a ∈ as, useElement (element a) = .ok a) : use data.value = .ok as := by
  have hmany : use (.list (as.map element)) = .ok (as.map id) := by
    rw [hlist]
    exact mapM_map_eq_pure helement
  rw [List.map_id] at hmany
  unfold FieldData.value
  rw [hdata]
  match as with
  | [] => exact hmany
  | [a] => exact hsingle a List.mem_cons_self
  | a :: a' :: as => exact hmany

theorem toWords64_longs (ns : List Nat) : (longs ns).value.toWords64 = .ok ns :=
  use_value_eq_ok rfl (fun _ _ => rfl) (fun _ => rfl) fun _ _ => rfl

theorem toWords16_shorts {ns : List Nat} (h : ∀ n ∈ ns, n < 2 ^ 16) :
    (shorts ns).value.toWords16 = .ok ns :=
  use_value_eq_ok rfl (fun _ _ => rfl) (fun _ => rfl) fun n hn => if_pos (h n hn)

theorem toDoubles_doubles (xs : List Float) : (doubles xs).value.toDoubles = .ok xs :=
  use_value_eq_ok rfl (fun _ _ => rfl) (fun _ => rfl) fun _ _ => rfl

@[simp] theorem count_longs (ns : List Nat) : (longs ns).count = ns.length :=
  List.length_map _

theorem fits_longs {loading : Loading} {ns : List Nat} (h : ∀ n ∈ ns, n < 2 ^ 32)
    (hlength : ns.length * 4 < 2 ^ 32) (hloads : loading.allows .long ns.length = true) :
    Fits loading (longs ns) := by
  refine ⟨h, ?_, ?_⟩
  · rw [length_bytes, count_longs]
    exact hlength
  · rw [count_longs]
    exact hloads

/-- Without a limit whatever the file holds is loaded. -/
theorem fits_unlimited {data : FieldData} (h : data.IsValid)
    (hlength : data.bytes.length < 2 ^ 32) :
    Fits .unlimited data where
  isValid := h
  length_lt := hlength
  allows := rfl

theorem fits_long (loading : Loading) {n : Nat} (h : n < 2 ^ 32) : Fits loading (longs [n]) :=
  fits_longs (by simpa using h) (by simp) (by cases loading <;> rfl)

theorem fits_short (loading : Loading) {n : Nat} (h : n < 2 ^ 16) : Fits loading (shorts [n]) where
  isValid := by simpa [IsValid] using h
  length_lt := by
    rw [length_bytes]
    change 1 * 2 < _
    omega
  allows := by cases loading <;> rfl

end Tiff.FieldData

/-! ### Directories with a table -/

/-- A directory has the fields of a table. -/
structure HasTable (file : Container) (d : Directory) (table : Tag → Option FieldData) :
    Prop where
  field?_eq : ∀ loading tag, (∀ data, table tag = some data → Fits loading data) →
    d.field? file loading tag = .ok ((table tag).map FieldData.value)
  has_eq : ∀ tag, d.has tag = (table tag).isSome

namespace HasTable

variable {file : Container} {d : Directory} {table : Tag → Option FieldData} {α : Type}
  {use : Value → Except DecodeError α}

theorem use?_eq_none (h : HasTable file d table) (loading : Loading) {tag : Tag}
    (htag : table tag = none) :
    d.use? file loading tag use = .ok none := by
  have hfield := h.field?_eq loading tag (by rw [htag]; rintro _ ⟨⟩)
  unfold Directory.use?
  rw [hfield, htag]
  rfl

theorem use?_eq_some (h : HasTable file d table) (loading : Loading) (tag : Tag)
    {data : FieldData} {a : α}
    (htag : table tag = some data) (hfits : Fits loading data) (huse : use data.value = .ok a) :
    d.use? file loading tag use = .ok (some a) := by
  have hfield := h.field?_eq loading tag (by rw [htag]; rintro _ ⟨⟩; exact hfits)
  unfold Directory.use?
  rw [hfield, htag]
  change (do return some (← use data.value)) = _
  rw [huse]
  rfl

theorem require_eq (h : HasTable file d table) (loading : Loading) (tag : Tag)
    {data : FieldData} {a : α}
    (htag : table tag = some data) (hfits : Fits loading data) (huse : use data.value = .ok a) :
    d.require file loading tag use = .ok a := by
  unfold Directory.require
  rw [h.use?_eq_some loading tag htag hfits huse]
  rfl

theorem use?_eq_short (h : HasTable file d table) (loading : Loading) (tag : Tag) {n : Nat}
    (htag : table tag = some (.shorts [n])) (hn : n < 2 ^ 16) :
    d.use? file loading tag Value.toWord16 = .ok (some n) :=
  h.use?_eq_some loading tag htag (FieldData.fits_short loading hn) (FieldData.toWord16_shorts hn)

theorem use?_eq_long (h : HasTable file d table) (loading : Loading) (tag : Tag) {n : Nat}
    (htag : table tag = some (.longs [n])) (hn : n < 2 ^ 32) :
    d.use? file loading tag Value.toWord32 = .ok (some n) :=
  h.use?_eq_some loading tag htag (FieldData.fits_long loading hn) (FieldData.toWord32_longs hn)

theorem require_eq_long (h : HasTable file d table) (loading : Loading) (tag : Tag) {n : Nat}
    (htag : table tag = some (.longs [n])) (hn : n < 2 ^ 32) :
    d.require file loading tag Value.toWord32 = .ok n :=
  h.require_eq loading tag htag (FieldData.fits_long loading hn) (FieldData.toWord32_longs hn)

end HasTable

/-! ### The image of a directory -/

/-- The pieces that cover a length are as many as the blocks that do. -/
theorem piecesCovering_eq {length piece : Nat} (hlength : 0 < length) (hpiece : 0 < piece) :
    Image.piecesCovering length piece = blocksCovering length piece := by
  unfold Image.piecesCovering blocksCovering
  rw [show length + (piece - 1) = length - 1 + piece by omega, Nat.add_div_right _ hpiece]

namespace WrittenImage

/-- What can be written, whatever the number of its tiles or strips. -/
structure IsWritable (image : WrittenImage) : Prop where
  subfileType_lt : image.subfileType < 2 ^ 32
  photometric_eq : image.photometric = 1 ∨ image.photometric = 4
  width_pos : 0 < image.size.width
  width_lt : image.size.width < 2 ^ 32
  height_pos : 0 < image.size.height
  height_lt : image.size.height < 2 ^ 32
  chunk_pos : 0 < image.chunkSize.height
  chunk_lt : image.chunkSize.height < 2 ^ 32

/-- The offsets of the tiles or strips can be written and are loaded. -/
structure IsLoaded (loading : Loading) (image : WrittenImage) : Prop where
  length_lt : image.chunks * 4 < 2 ^ 32
  allows : loading.allows .long image.chunks = true

theorem IsValid.isWritable {image : WrittenImage} (h : image.IsValid) : image.IsWritable :=
  { h with }

/-- The side of a tile, or the rows of a strip. -/
theorem IsWritable.cut_bounds {image : WrittenImage} {n : Nat} (h : image.IsWritable)
    (hcut : image.cut = .tiles n ∨ image.cut = .strips n) : 0 < n ∧ n < 2 ^ 32 := by
  have hheight : image.chunkSize.height = n := by
    unfold chunkSize
    rcases hcut with hcut | hcut <;> rw [hcut]
  rw [← hheight]
  exact ⟨h.chunk_pos, h.chunk_lt⟩

theorem IsWritable.photometric_lt {image : WrittenImage} (h : image.IsWritable) :
    image.photometric < 2 ^ 16 := by
  rcases h.photometric_eq with hp | hp <;> omega

/-- The offsets of the tiles or strips are all that of the block. -/
theorem exists_offsets (image : WrittenImage) (tags : WrittenTags) (block : Nat) :
    ∃ tag ∈ [Tag.stripOffsets, .tileOffsets],
      image.table tags block tag = some (.longs (List.replicate image.chunks block)) := by
  cases hcut : image.cut with
  | tiles side => exact ⟨.tileOffsets, by decide, by simp only [table, hcut]⟩
  | strips rows => exact ⟨.stripOffsets, by decide, by simp only [table, hcut]⟩

/-- The layout of an image to be written. -/
def layout (image : WrittenImage) : Layout :=
  match image.cut with
  | .tiles side => .tiles ⟨side, side⟩
  | .strips rows => .strips rows

variable {image : WrittenImage} {tags : WrittenTags} {block : Nat} {file : Container}
  {d : Directory} (h : HasTable file d (image.table tags block)) (hwritable : image.IsWritable)
  (loading : Loading)
include h hwritable

theorem readSize_eq : Image.readSize file loading d = .ok image.size := by
  have hwidth := hwritable.width_pos
  have hheight := hwritable.height_pos
  unfold Image.readSize
  rw [h.require_eq_long loading .imageWidth rfl hwritable.width_lt, ok_bind,
    h.require_eq_long loading .imageLength rfl hwritable.height_lt, ok_bind, if_neg (by omega)]
  rfl

theorem checkPhotometric_eq : Image.checkPhotometric file loading d = .ok () := by
  unfold Image.checkPhotometric
  rw [h.use?_eq_short loading .photometricInterpretation rfl hwritable.photometric_lt]
  rcases hwritable.photometric_eq with hp | hp <;> rw [hp] <;> rfl

omit hwritable in
/-- The fields that do not depend on the image are those of single uncompressed
samples of eight bits. -/
theorem readSamples_eq : Image.checkCompression file loading d = .ok ()
    ∧ Image.readSamples file loading d = .ok 1
    ∧ Image.checkSampleFormat file loading d = .ok ()
    ∧ Image.checkBitsPerSample file loading d 1 = .ok ()
    ∧ Image.checkPredictor file loading d = .ok ()
    ∧ Image.readPlanes file loading d 1 = .ok 1 := by
  have hcompression := h.use?_eq_short loading .compression rfl (by decide)
  have hsamples := h.use?_eq_short loading .samplesPerPixel rfl (by decide)
  have hplanes := h.use?_eq_short loading .planarConfiguration rfl (by decide)
  have hbits : d.use? file loading .bitsPerSample Value.toWords64 = .ok (some [8]) :=
    h.use?_eq_some loading .bitsPerSample rfl (FieldData.fits_short loading (by decide)) rfl
  have hformat : d.use? file loading .sampleFormat Value.toWords64 = .ok none :=
    h.use?_eq_none _ rfl
  have hpredictor : d.use? file loading .predictor Value.toWord16 = .ok none :=
    h.use?_eq_none _ rfl
  refine ⟨?_, ?_, ?_, ?_, ?_, ?_⟩
  · unfold Image.checkCompression
    rw [hcompression]
    rfl
  · unfold Image.readSamples
    rw [hsamples]
    rfl
  · unfold Image.checkSampleFormat
    rw [hformat]
    rfl
  · unfold Image.checkBitsPerSample
    rw [hbits]
    rfl
  · unfold Image.checkPredictor
    rw [hpredictor]
    rfl
  · unfold Image.readPlanes
    rw [hplanes]
    rfl

variable (hloaded : image.IsLoaded loading) (hblock : block < 2 ^ 32)
  (hbytes : image.chunkBytes < 2 ^ 32)

omit h hwritable in
include hloaded in
private theorem fits_chunks {n : Nat} (hn : n < 2 ^ 32) :
    Fits loading (.longs (List.replicate image.chunks n)) := by
  refine FieldData.fits_longs ?_ ?_ ?_
  · intro k hk
    rw [List.eq_of_mem_replicate hk]
    exact hn
  · rw [List.length_replicate]
    exact hloaded.length_lt
  · rw [List.length_replicate]
    exact hloaded.allows

include hloaded hblock hbytes

private theorem readTiles_eq {side : Nat} (hcut : image.cut = .tiles side) :
    Image.readTiles file loading d image.size 1 = .ok (.tiles ⟨side, side⟩) := by
  have hside := hwritable.cut_bounds (.inl hcut)
  have hwidth := h.require_eq_long loading .tileWidth (by simp only [table, hcut]) hside.2
  have hheight := h.require_eq_long loading .tileLength (by simp only [table, hcut]) hside.2
  have hoffsets := h.require_eq loading .tileOffsets
    (by simp only [table, hcut]) (fits_chunks loading hloaded hblock)
    (FieldData.toWords64_longs _)
  have hcounts := h.require_eq loading .tileByteCounts
    (by simp only [table, hcut]) (fits_chunks loading hloaded hbytes)
    (FieldData.toWords64_longs _)
  have hcount : image.chunks = blocksCovering image.size.height side
      * blocksCovering image.size.width side := by
    unfold chunks
    rw [hcut, Nat.mul_comm]
  have hlt : blocksCovering image.size.height side * blocksCovering image.size.width side
      < wordCount 64 := by
    have hlength := hloaded.length_lt
    have hword : wordCount 64 = 2 ^ 64 := rfl
    omega
  have hchunks : image.chunks = wordMul 64 (wordMul 64 (Image.piecesCovering image.size.height side)
      (Image.piecesCovering image.size.width side)) 1 := by
    rw [piecesCovering_eq hwritable.height_pos hside.1, piecesCovering_eq hwritable.width_pos hside.1,
      wordMul_of_lt hlt, wordMul_of_lt (by rwa [Nat.mul_one]), Nat.mul_one, hcount]
  unfold Image.readTiles
  rw [hwidth, ok_bind, hheight, ok_bind]
  dsimp only
  rw [if_neg (by omega), if_neg (by omega), hoffsets, ok_bind, hcounts, ok_bind,
    List.length_replicate, List.length_replicate, if_neg]
  · rfl
  · rintro (hne | hne)
    · exact hne rfl
    · exact hne hchunks

private theorem readStrips_eq {rows : Nat} (hcut : image.cut = .strips rows) :
    Image.readStrips file loading d image.size 1 = .ok (.strips rows) := by
  have hrows := hwritable.cut_bounds (.inr hcut)
  have hoffsets := h.require_eq loading .stripOffsets
    (by simp only [table, hcut]) (fits_chunks loading hloaded hblock)
    (FieldData.toWords64_longs _)
  have hcounts := h.require_eq loading .stripByteCounts
    (by simp only [table, hcut]) (fits_chunks loading hloaded hbytes)
    (FieldData.toWords64_longs _)
  have hheight := h.use?_eq_long loading .rowsPerStrip (by simp only [table, hcut]) hrows.2
  have hcount : image.chunks = blocksCovering image.size.height rows := by
    unfold chunks
    rw [hcut]
  have hlt : blocksCovering image.size.height rows * 1 < wordCount 32 := by
    have hlength := hloaded.length_lt
    have hword : wordCount 32 = 2 ^ 32 := rfl
    omega
  have hchunks : image.chunks
      = wordMul 32 (Image.piecesCovering image.size.height rows) 1 := by
    rw [piecesCovering_eq hwritable.height_pos hrows.1, wordMul_of_lt hlt, Nat.mul_one, hcount]
  unfold Image.readStrips
  rw [hoffsets, ok_bind, hcounts, ok_bind, hheight, ok_bind, Option.getD_some]
  dsimp only
  rw [List.length_replicate, List.length_replicate, if_neg]
  · rfl
  · rintro (hne | hne | hne)
    · exact hne rfl
    · omega
    · exact hne hchunks

/-- The layout is told by the tags that are present, and there are as many offsets
and byte counts as there are tiles or strips. -/
theorem readLayout_eq :
    Image.readLayout file loading d image.size 1 = .ok image.layout := by
  unfold Image.readLayout layout
  rw [h.has_eq, h.has_eq, h.has_eq, h.has_eq]
  cases hcut : image.cut with
  | tiles side =>
    simp only [table, hcut, Option.isSome_none, Option.isSome_some]
    exact readTiles_eq h hwritable loading hloaded hblock hbytes hcut
  | strips rows =>
    simp only [table, hcut, Option.isSome_none, Option.isSome_some]
    exact readStrips_eq h hwritable loading hloaded hblock hbytes hcut

/-- **The directory of a written image is read as its size and layout.** -/
theorem imageOfDirectory_eq :
    Image.ofDirectory file loading d = .ok { size := image.size, layout := image.layout } := by
  obtain ⟨hcompression, hsamples, hformat, hbits, hpredictor, hplanes⟩ := readSamples_eq h loading
  unfold Image.ofDirectory
  rw [readSize_eq h hwritable, ok_bind, checkPhotometric_eq h hwritable, ok_bind, hcompression,
    ok_bind, hsamples, ok_bind, hformat, ok_bind, hbits, ok_bind, hpredictor, ok_bind, hplanes, ok_bind,
    readLayout_eq h hwritable loading hloaded hblock hbytes, ok_bind]
  rfl

/-! ### The page of a directory -/

omit hloaded hblock hbytes

/-- The bits of the subfile type and the photometric interpretation tell masks. -/
theorem isMask_eq : Page.isMask file d image.subfileType = .ok (decide image.IsMask) := by
  unfold Page.isMask
  rw [h.use?_eq_short .unlimited .photometricInterpretation rfl hwritable.photometric_lt]
  by_cases hbit : image.subfileType.testBit 2 = true
  · rw [if_pos hbit, decide_eq_true (show image.IsMask from Or.inl hbit)]
  · have hmask : image.IsMask ↔ image.photometric = 4 := or_iff_right hbit
    rw [if_neg hbit]
    change Except.ok (some image.photometric == some maskPhotometric) = _
    rw [decide_eq_decide.mpr hmask]
    rfl

/-- Tiles are blocks, and strips are blocks up to the end of the image. -/
theorem blockSize_eq :
    Page.blockSize file d { size := image.size, layout := image.layout } = .ok image.blockSize := by
  unfold Page.blockSize WrittenImage.blockSize layout Image.chunkSize
  cases hcut : image.cut with
  | tiles side =>
    have htable : image.table tags block .tileWidth = some (.longs [side]) := by
      simp only [table, hcut]
    rw [h.field?_eq .unlimited .tileWidth, htable]
    · rfl
    · rw [htable]
      rintro _ ⟨⟩
      exact FieldData.fits_long .unlimited (hwritable.cut_bounds (.inl hcut)).2
  | strips rows =>
    have htable : image.table tags block .tileWidth = none := by simp only [table, hcut]
    rw [h.field?_eq .unlimited .tileWidth, htable]
    · rfl
    · rw [htable]
      rintro _ ⟨⟩

section Georeference

omit hwritable
variable (htags : tags.IsValid)
  (hlength : ∀ tag data, image.table tags block tag = some data → data.bytes.length < 2 ^ 32)
include hlength

private theorem readDoubles_eq (tag : Tag) {written : Option (List Float)}
    (htag : image.table tags block tag = written.map .doubles) :
    d.use? file .unlimited tag Value.toDoubles = .ok written := by
  cases written with
  | none => exact h.use?_eq_none _ htag
  | some xs =>
    exact h.use?_eq_some .unlimited tag htag (FieldData.fits_unlimited trivial (hlength tag _ htag))
      (FieldData.toDoubles_doubles xs)

include htags

private theorem readKeys_eq : GeoreferenceTags.readKeys file d = .ok tags.keyDirectory? := by
  unfold GeoreferenceTags.readKeys WrittenTags.keyDirectory?
  by_cases hkeys : tags.keys = []
  · have htable : image.table tags block .geoKeyDirectory = none := if_pos hkeys
    rw [h.use?_eq_none .unlimited htable, if_pos hkeys]
    rfl
  · have htable : image.table tags block .geoKeyDirectory = some (.shorts tags.keys) :=
      if_neg hkeys
    have hshorts : d.use? file .unlimited .geoKeyDirectory Value.toWords16
        = .ok (some tags.keys) :=
      h.use?_eq_some .unlimited .geoKeyDirectory htable
        (FieldData.fits_unlimited htags.keys_lt (hlength _ _ htable))
        (FieldData.toWords16_shorts htags.keys_lt)
    have hdoubles : d.use? file .unlimited .geoDoubleParams Value.toDoubles = .ok none :=
      h.use?_eq_none _ rfl
    have hascii : d.use? file .unlimited .geoAsciiParams Value.toText = .ok none :=
      h.use?_eq_none _ rfl
    rw [hshorts, if_neg hkeys, ok_bind]
    dsimp only
    rw [hdoubles, ok_bind, hascii, ok_bind]
    have hok := htags.keys_ok hkeys
    cases hread : KeyDirectory.ofShorts tags.keys none none with
    | error e =>
      rw [hread] at hok
      cases hok
    | ok keys => rfl

/-- The georeferencing tags are those that were written. -/
theorem readTags_eq : GeoreferenceTags.read file d = .ok tags.read := by
  have hscale := readDoubles_eq h hlength .modelPixelScale rfl
  have htiepoints := readDoubles_eq h hlength .modelTiepoint rfl
  have htransformation := readDoubles_eq h hlength .modelTransformation rfl
  have hkeys := readKeys_eq h htags hlength
  unfold GeoreferenceTags.read
  rw [hscale, htiepoints, htransformation, hkeys]
  rfl

end Georeference

/-- **The page of the directory of a written image is that of the image.** -/
theorem pageOfDirectory_eq (hloaded : image.IsLoaded loading) (hblock : block < 2 ^ 32)
    (hbytes : image.chunkBytes < 2 ^ 32) (htags : tags.IsValid)
    (hlength : ∀ tag data, image.table tags block tag = some data →
      data.bytes.length < 2 ^ 32) :
    Page.ofDirectory file d loading = .ok (image.page tags) := by
  have hsubfile := h.use?_eq_long .unlimited .newSubfileType rfl hwritable.subfileType_lt
  unfold Page.ofDirectory
  rw [imageOfDirectory_eq h hwritable loading hloaded hblock hbytes, ok_bind]
  unfold Page.ofImage page
  rw [hsubfile, ok_bind, Option.getD_some]
  dsimp only
  rw [isMask_eq h hwritable, ok_bind]
  by_cases hmask : image.IsMask
  · rw [if_pos hmask, decide_eq_true hmask]
    rfl
  · rw [if_neg hmask, decide_eq_false hmask, if_neg Bool.false_ne_true, blockSize_eq h hwritable,
      ok_bind, readTags_eq h htags hlength]
    unfold imagePage
    -- only a full resolution image has its georeferencing read
    by_cases hreduced : image.subfileType.testBit 0 = true
    · rw [if_pos hreduced, if_pos hreduced]
      rfl
    · rw [if_neg hreduced, if_neg hreduced]
      rfl

end WrittenImage

end BlockExtent
