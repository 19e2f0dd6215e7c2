import BlockExtent.Proofs.Tiff.Images
import BlockExtent.Proofs.Tiff.Limits

/-!
# Two readings of an image

The image of a directory is read from its fields one after the other, up to the first that is
wrong.  If two readings are related at each of these fields, then so are the images they give,
whatever the relation is, as long as it goes from one step to the next.

## Main definitions

* `GoesThrough` — a relation of results goes from one step to the next.
* `Image.tags` — the fields of an image.
* `Image.IsRelated` — two readings are related at each field of an image.
* `KeepsResult` — what is read in one way is read in the other.

## Main results

* `Image.IsRelated.ofDirectory` — **readings that are related at each field give related images.**
* `Image.ofDirectory_unlimited` — an image that is read under a limit is read without it.
-/

namespace BlockExtent.Tiff

/-- A relation of results.  It is one for each type of values. -/
abbrev ResultRelation : Type 1 :=
  ∀ α : Type, Except DecodeError α → Except DecodeError α → Prop

/-- A relation of results goes from one step to the next.  It relates a result to itself, unless
that is a matter of a limit. -/
structure GoesThrough (R : ResultRelation) : Prop where
  ok : ∀ {α : Type} (a : α), R α (.ok a) (.ok a)
  error : ∀ {α : Type} {cause : DecodeError}, cause ≠ .limitsExceeded →
    R α (.error cause) (.error cause)
  bind : ∀ {α β : Type} {first first' : Except DecodeError α}
    {next next' : α → Except DecodeError β}, R α first first' → (∀ a, R β (next a) (next' a)) →
    R β (first >>= next) (first' >>= next')

namespace GoesThrough

variable {R : ResultRelation} {α : Type}

/-- A check that has nothing to do with a limit. -/
theorem guard (h : GoesThrough R) {c : Prop} [Decidable c] {cause : DecodeError}
    (hcause : cause ≠ .limitsExceeded) {rest rest' : Except DecodeError α}
    (hrest : R α rest rest') :
    R α (if c then .error cause else rest) (if c then .error cause else rest') := by
  split_ifs
  · exact h.error hcause
  · exact hrest

end GoesThrough

/-- A tag has no value if the directory has not got it, and only then. -/
theorem Directory.field?_eq_none_iff {file : Container} {loading : Loading} {d : Directory}
    {tag : Tag} : d.field? file loading tag = .ok none ↔ d.has tag = false := by
  unfold field? has
  cases d.entry? tag with
  | none => simp
  | some e => cases hvalue : e.value file loading <;> simp [Except.map, hvalue]

namespace Image

/-- The fields that the image of a directory is read from. -/
def tags : List Tag :=
  [.imageWidth, .imageLength, .photometricInterpretation, .compression, .jpegTables,
    .samplesPerPixel, .sampleFormat, .bitsPerSample, .predictor, .planarConfiguration,
    .stripOffsets, .stripByteCounts, .rowsPerStrip, .tileWidth, .tileLength, .tileOffsets,
    .tileByteCounts]

/-- Two readings are related at each field of an image. -/
structure IsRelated (R : ResultRelation) (file : Container) (loading : Loading) (d : Directory)
    (file' : Container) (loading' : Loading) (d' : Directory) : Prop where
  goesThrough : GoesThrough R
  use? : ∀ tag ∈ tags, ∀ {α : Type} {use : Value → Except DecodeError α},
    (∀ v, IsUnlimited (use v)) →
    R (Option α) (d.use? file loading tag use) (d'.use? file' loading' tag use)
  has : ∀ tag ∈ tags, d.has tag = d'.has tag

namespace IsRelated

variable {R : ResultRelation} {file file' : Container} {loading loading' : Loading}
  {d d' : Directory} {α : Type} (h : IsRelated R file loading d file' loading' d')
include h

theorem require {tag : Tag} (htag : tag ∈ tags) {use : Value → Except DecodeError α}
    (huse : ∀ v, IsUnlimited (use v)) :
    R α (d.require file loading tag use) (d'.require file' loading' tag use) := by
  unfold Directory.require
  refine h.goesThrough.bind (h.use? tag htag huse) fun found => ?_
  cases found with
  | none => exact h.goesThrough.error (by simp)
  | some a => exact h.goesThrough.ok a

theorem readSize : R Size (readSize file loading d) (readSize file' loading' d') := by
  unfold Image.readSize
  refine h.goesThrough.bind (h.require (by decide) Value.isUnlimited_toWord32) fun width => ?_
  refine h.goesThrough.bind (h.require (by decide) Value.isUnlimited_toWord32) fun height => ?_
  exact h.goesThrough.guard (by simp) (h.goesThrough.ok _)

theorem checkPhotometric :
    R Unit (checkPhotometric file loading d) (checkPhotometric file' loading' d') := by
  unfold Image.checkPhotometric
  refine h.goesThrough.bind (h.use? _ (by decide) Value.isUnlimited_toWord16) fun number? => ?_
  cases number? with
  | none => exact h.goesThrough.error (by simp)
  | some n =>
    dsimp only
    split_ifs
    · exact h.goesThrough.ok ()
    · exact h.goesThrough.error (by simp)

theorem checkCompression :
    R Unit (checkCompression file loading d) (checkCompression file' loading' d') := by
  unfold Image.checkCompression
  refine h.goesThrough.bind (h.use? _ (by decide) Value.isUnlimited_toWord16) fun compression => ?_
  split_ifs
  · refine h.goesThrough.bind (h.use? _ (by decide) Value.isUnlimited_toBytes) fun tables? => ?_
    cases tables? with
    | none => exact h.goesThrough.ok ()
    | some tables => exact h.goesThrough.guard (by simp) (h.goesThrough.ok ())
  · exact h.goesThrough.ok ()

theorem readSamples : R ℕ (readSamples file loading d) (readSamples file' loading' d') := by
  unfold Image.readSamples
  refine h.goesThrough.bind (h.use? _ (by decide) Value.isUnlimited_toWord16) fun samples? => ?_
  exact h.goesThrough.guard (by simp) (h.goesThrough.ok _)

theorem checkSampleFormat :
    R Unit (checkSampleFormat file loading d) (checkSampleFormat file' loading' d') := by
  unfold Image.checkSampleFormat
  refine h.goesThrough.bind (h.use? _ (by decide) Value.isUnlimited_toWords64) fun formats? => ?_
  cases formats? with
  | none => exact h.goesThrough.ok ()
  | some formats =>
    exact h.goesThrough.guard (by simp) (h.goesThrough.guard (by simp) (h.goesThrough.ok ()))

theorem checkBitsPerSample (samples : ℕ) : R Unit (checkBitsPerSample file loading d samples)
    (checkBitsPerSample file' loading' d' samples) := by
  unfold Image.checkBitsPerSample
  refine h.goesThrough.bind (h.use? _ (by decide) Value.isUnlimited_toWords64) fun bits? => ?_
  refine h.goesThrough.guard (by simp) (h.goesThrough.guard (by simp) ?_)
  exact h.goesThrough.guard (by simp) (h.goesThrough.ok ())

theorem checkPredictor :
    R Unit (checkPredictor file loading d) (checkPredictor file' loading' d') := by
  unfold Image.checkPredictor
  refine h.goesThrough.bind (h.use? _ (by decide) Value.isUnlimited_toWord16) fun predictor? => ?_
  cases predictor? with
  | none => exact h.goesThrough.ok ()
  | some predictor => exact h.goesThrough.guard (by simp) (h.goesThrough.ok ())

theorem readPlanes (samples : ℕ) :
    R ℕ (readPlanes file loading d samples) (readPlanes file' loading' d' samples) := by
  unfold Image.readPlanes
  refine h.goesThrough.bind (h.use? _ (by decide) Value.isUnlimited_toWord16) fun planar? => ?_
  split
  · exact h.goesThrough.ok _
  · exact h.goesThrough.ok _
  · exact h.goesThrough.error (by simp)

theorem readStrips (size : Size) (planes : ℕ) : R Layout (readStrips file loading d size planes)
    (readStrips file' loading' d' size planes) := by
  have hwords := Value.isUnlimited_toWords64
  unfold Image.readStrips
  refine h.goesThrough.bind (h.require (by decide) hwords) fun offsets => ?_
  refine h.goesThrough.bind (h.require (by decide) hwords) fun counts => ?_
  refine h.goesThrough.bind (h.use? _ (by decide) Value.isUnlimited_toWord32) fun rows? => ?_
  exact h.goesThrough.guard (by simp) (h.goesThrough.ok _)

theorem readTiles (size : Size) (planes : ℕ) : R Layout (readTiles file loading d size planes)
    (readTiles file' loading' d' size planes) := by
  have hwords := Value.isUnlimited_toWords64
  unfold Image.readTiles
  refine h.goesThrough.bind (h.require (by decide) Value.isUnlimited_toWord32) fun width => ?_
  refine h.goesThrough.bind (h.require (by decide) Value.isUnlimited_toWord32) fun height => ?_
  refine h.goesThrough.guard (by simp) (h.goesThrough.guard (by simp) ?_)
  have hoffsets := h.require (show Tag.tileOffsets ∈ tags by decide) hwords
  have hcounts := h.require (show Tag.tileByteCounts ∈ tags by decide) hwords
  refine h.goesThrough.bind hoffsets fun offsets => h.goesThrough.bind hcounts fun counts => ?_
  exact h.goesThrough.guard (by simp) (h.goesThrough.ok _)

/-- The tags that are present tell both readings the same layout. -/
theorem readLayout (size : Size) (planes : ℕ) : R Layout (readLayout file loading d size planes)
    (readLayout file' loading' d' size planes) := by
  unfold Image.readLayout
  rw [h.has .stripOffsets (by decide), h.has .stripByteCounts (by decide),
    h.has .tileOffsets (by decide), h.has .tileByteCounts (by decide)]
  split
  · exact h.readStrips size planes
  · exact h.readTiles size planes
  · exact h.goesThrough.error (by simp)

/-- **Readings that are related at each field give related images.** -/
theorem ofDirectory : R Image (ofDirectory file loading d) (ofDirectory file' loading' d') := by
  unfold Image.ofDirectory
  refine h.goesThrough.bind h.readSize fun size => ?_
  refine h.goesThrough.bind h.checkPhotometric fun _ => ?_
  refine h.goesThrough.bind h.checkCompression fun _ => ?_
  refine h.goesThrough.bind h.readSamples fun samples => ?_
  refine h.goesThrough.bind h.checkSampleFormat fun _ => ?_
  refine h.goesThrough.bind (h.checkBitsPerSample samples) fun _ => ?_
  refine h.goesThrough.bind h.checkPredictor fun _ => ?_
  refine h.goesThrough.bind (h.readPlanes samples) fun planes => ?_
  exact h.goesThrough.bind (h.readLayout size planes) fun layout => h.goesThrough.ok _

end IsRelated

end Image

/-! ### Readings without the limit -/

/-- What is read in one way is read in the other. -/
def KeepsResult : ResultRelation := fun α first second => ∀ a : α, first = .ok a → second = .ok a

theorem goesThrough_keepsResult : GoesThrough KeepsResult where
  ok _ _ h := h
  error _ _ h := h
  bind hfirst hnext b h := by
    obtain ⟨a, ha, hb⟩ := bind_eq_ok h
    rw [hfirst a ha]
    exact hnext a b hb

section Unlimited

variable (file : Container) (loading : Loading) (d : Directory)

/-- A field that is loaded under a limit is loaded without it. -/
theorem Entry.keepsResult_value (e : Entry) :
    KeepsResult Value (e.value file loading) (e.value file .unlimited) := by
  intro v h
  unfold value at h ⊢
  split_ifs at h ⊢
  · exact h
  · exact h
  · exact h
  · unfold atPosition at h ⊢
    dsimp only at h ⊢
    split_ifs at h
    · cases h
    · exact h

theorem Directory.keepsResult_field? (tag : Tag) : KeepsResult (Option Value)
    (d.field? file loading tag) (d.field? file .unlimited tag) := by
  unfold field?
  cases d.entry? tag with
  | none => exact goesThrough_keepsResult.ok none
  | some e =>
    intro value? h
    dsimp only at h ⊢
    cases hvalue : e.value file loading with
    | error cause =>
      rw [hvalue] at h
      cases h
    | ok v =>
      rwa [e.keepsResult_value file loading v hvalue, ← hvalue]

theorem Image.isRelated_unlimited :
    IsRelated KeepsResult file loading d file .unlimited d where
  goesThrough := goesThrough_keepsResult
  use? tag _ _ use _ := by
    unfold Directory.use?
    exact goesThrough_keepsResult.bind (d.keepsResult_field? file loading tag) fun _ _ h => h
  has _ _ := rfl

/-- An image that is read under a limit is read without it. -/
theorem Image.ofDirectory_unlimited {image : Image} (h : ofDirectory file loading d = .ok image) :
    ofDirectory file .unlimited d = .ok image :=
  (isRelated_unlimited file loading d).ofDirectory image h

end Unlimited

end BlockExtent.Tiff
