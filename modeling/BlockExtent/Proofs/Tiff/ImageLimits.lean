import BlockExtent.Proofs.Tiff.Readings

/-!
# Images under a limit

Under the limit the image of a directory is the same as without it, unless one of its fields is
too large.  An image that lists too many strips or tiles is then refused, although there is nothing
wrong with it.

## Main definitions

* `Image.ExceedsLimit` — one of the fields of an image is too large.
* `Image.ListsTooMany` — an image has more strips or tiles than are loaded under the limit.

## Main results

* `Image.agrees_ofDirectory` — **the image of a directory agrees, unless one of its fields is too
  large.**
* `Image.ofDirectory_eq_limitsExceeded` — **an image of too many strips or tiles is refused.**
-/

namespace BlockExtent.Tiff

/-- Results that agree go from one step to the next. -/
theorem AgreesUnless.goesThrough (tooLarge : Prop) :
    GoesThrough fun _ limited unlimited => AgreesUnless tooLarge limited unlimited where
  ok := .ok
  error := .error
  bind := .bind

namespace Image

/-- One of the fields of an image has too many elements to be loaded under the limit. -/
def ExceedsLimit (d : Directory) : Prop := ∃ tag ∈ tags, d.HasLarge tag

variable {file : Container} {d : Directory}

/-- **The image of a directory agrees, unless one of its fields is too large.** -/
theorem agrees_ofDirectory (hsmall : ∀ e ∈ d.entries, e.byteCount < 2 ^ 64) :
    AgreesUnless (ExceedsLimit d) (ofDirectory file .limited d)
      (ofDirectory file .unlimited d) := by
  have hrelated : IsRelated (fun _ => AgreesUnless (ExceedsLimit d)) file .limited d
      file .unlimited d :=
    { goesThrough := AgreesUnless.goesThrough (ExceedsLimit d)
      use? := fun tag htag _ _ huse =>
        (Directory.agrees_use? hsmall huse).mono fun hlarge => ⟨tag, htag, hlarge⟩
      has := fun _ _ => rfl }
  exact hrelated.ofDirectory

/-! ### Lists of offsets and byte counts -/

/-- The offsets or the byte counts of strips or tiles are too many to be loaded under the
limit. -/
def ListsTooMany (d : Directory) : Prop :=
  ∃ tag ∈ [Tag.stripOffsets, .stripByteCounts, .tileOffsets, .tileByteCounts], d.HasLarge tag

/-- Too many strips or tiles have no layout under the limit. -/
theorem readLayout_ne_ok (h : ListsTooMany d) (file : Container) (size : Size) (planes : ℕ)
    (layout : Layout) : readLayout file .limited d size planes ≠ .ok layout := by
  simp only [ListsTooMany, List.exists_mem_cons_iff, List.not_mem_nil, false_and, exists_false,
    or_false] at h
  intro hlayout
  unfold readLayout at hlayout
  -- the lists that are too long are those of the layout, since there are no others
  split at hlayout
  · rename_i htileOffsets htileCounts
    obtain ⟨-, offsets, counts, -, -, -, hoffsets, hcounts⟩ := readStrips_eq_ok hlayout
    rcases h with hlarge | hlarge | hlarge | hlarge
    · exact hlarge.require_ne_ok file _ _ hoffsets
    · exact hlarge.require_ne_ok file _ _ hcounts
    · exact absurd hlarge.has (by simp [htileOffsets])
    · exact absurd hlarge.has (by simp [htileCounts])
  · rename_i hstripOffsets hstripCounts _ _
    obtain ⟨-, offsets, counts, -, -, -, -, hoffsets, hcounts⟩ := readTiles_eq_ok hlayout
    rcases h with hlarge | hlarge | hlarge | hlarge
    · exact absurd hlarge.has (by simp [hstripOffsets])
    · exact absurd hlarge.has (by simp [hstripCounts])
    · exact hlarge.require_ne_ok file _ _ hoffsets
    · exact hlarge.require_ne_ok file _ _ hcounts
  · cases hlayout

/-- **An image of too many strips or tiles is refused under the limit**, although there is nothing
else wrong with it. -/
theorem ofDirectory_eq_limitsExceeded (hsmall : ∀ e ∈ d.entries, e.byteCount < 2 ^ 64)
    (h : ListsTooMany d) {image : Image} (hok : ofDirectory file .unlimited d = .ok image) :
    ofDirectory file .limited d = .error .limitsExceeded := by
  obtain ⟨-, hsame | ⟨-, hrefused⟩⟩ := @agrees_ofDirectory file d hsmall
  · obtain ⟨-, planes, hlayout⟩ := ofDirectory_eq_ok (hsame.trans hok)
    exact absurd hlayout (readLayout_ne_ok h file image.size planes image.layout)
  · exact hrefused

end Image

end BlockExtent.Tiff
