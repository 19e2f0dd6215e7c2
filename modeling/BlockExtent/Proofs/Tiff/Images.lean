import BlockExtent.Proofs.Result
import BlockExtent.Tiff.Image
import Mathlib.Tactic.SplitIfs

/-!
# Images that have been read

What is known of an image whose directory has been read: that none of its sides is zero, and
which lists its layout was read from.

## Main results

* `Image.nonempty_of_readSize` — the size of an image.
* `Image.readStrips_eq_ok`, `Image.readTiles_eq_ok` — the layout of strips and of tiles.
* `Image.ofDirectory_eq_ok` — the size and the layout of an image.
-/

namespace BlockExtent.Tiff.Image

variable {file : Container} {loading : Loading} {d : Directory} {size : Size} {planes : Nat}
  {layout : Layout} {image : Image}

/-- The size of an image has no side that is zero. -/
theorem nonempty_of_readSize (h : readSize file loading d = .ok size) : ¬ size.IsEmpty := by
  unfold readSize at h
  obtain ⟨width, -, h⟩ := bind_eq_ok h
  obtain ⟨height, -, h⟩ := bind_eq_ok h
  split_ifs at h with hzero
  · cases h
  · cases h
    exact hzero

/-- A strip has rows, and the strips have offsets and byte counts. -/
theorem readStrips_eq_ok (h : readStrips file loading d size planes = .ok layout) :
    ∃ rows? offsets counts, layout = .strips (rows?.getD size.height)
      ∧ rows?.getD size.height ≠ 0
      ∧ d.use? file loading .rowsPerStrip Value.toWord32 = .ok rows?
      ∧ d.require file loading .stripOffsets Value.toWords64 = .ok offsets
      ∧ d.require file loading .stripByteCounts Value.toWords64 = .ok counts := by
  unfold readStrips at h
  obtain ⟨offsets, hoffsets, h⟩ := bind_eq_ok h
  obtain ⟨counts, hcounts, h⟩ := bind_eq_ok h
  obtain ⟨rows?, hrows, h⟩ := bind_eq_ok h
  dsimp only at h
  split_ifs at h with hbad
  · cases h
  · cases h
    exact ⟨rows?, offsets, counts, rfl, fun hzero => hbad (.inr (.inl hzero)), hrows, hoffsets,
      hcounts⟩

/-- A tile has no side that is zero, and the tiles have offsets and byte counts. -/
theorem readTiles_eq_ok (h : readTiles file loading d size planes = .ok layout) :
    ∃ tile offsets counts, layout = .tiles tile ∧ ¬ tile.IsEmpty
      ∧ d.require file loading .tileWidth Value.toWord32 = .ok tile.width
      ∧ d.require file loading .tileLength Value.toWord32 = .ok tile.height
      ∧ d.require file loading .tileOffsets Value.toWords64 = .ok offsets
      ∧ d.require file loading .tileByteCounts Value.toWords64 = .ok counts := by
  unfold readTiles at h
  obtain ⟨width, htileWidth, h⟩ := bind_eq_ok h
  obtain ⟨height, htileLength, h⟩ := bind_eq_ok h
  dsimp only at h
  by_cases hwidth : width = 0
  · rw [if_pos hwidth] at h
    cases h
  by_cases hheight : height = 0
  · rw [if_neg hwidth, if_pos hheight] at h
    cases h
  rw [if_neg hwidth, if_neg hheight] at h
  obtain ⟨offsets, hoffsets, h⟩ := bind_eq_ok h
  obtain ⟨counts, hcounts, h⟩ := bind_eq_ok h
  split_ifs at h
  · cases h
  · cases h
    exact ⟨_, offsets, counts, rfl, fun hempty => hempty.elim hwidth hheight, htileWidth,
      htileLength, hoffsets, hcounts⟩

/-- An image has the size and the layout that are read of its directory. -/
theorem ofDirectory_eq_ok (h : ofDirectory file loading d = .ok image) :
    readSize file loading d = .ok image.size
      ∧ ∃ planes, readLayout file loading d image.size planes = .ok image.layout := by
  unfold ofDirectory at h
  obtain ⟨size, hsize, h⟩ := bind_eq_ok h
  obtain ⟨-, -, h⟩ := bind_eq_ok h
  obtain ⟨-, -, h⟩ := bind_eq_ok h
  obtain ⟨samples, -, h⟩ := bind_eq_ok h
  obtain ⟨-, -, h⟩ := bind_eq_ok h
  obtain ⟨-, -, h⟩ := bind_eq_ok h
  obtain ⟨-, -, h⟩ := bind_eq_ok h
  obtain ⟨planes, -, h⟩ := bind_eq_ok h
  obtain ⟨layout, hlayout, hpure⟩ := bind_eq_ok h
  cases hpure
  exact ⟨hsize, planes, hlayout⟩

end BlockExtent.Tiff.Image
