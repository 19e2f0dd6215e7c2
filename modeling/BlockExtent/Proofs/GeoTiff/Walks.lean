import BlockExtent.Proofs.GeoTiff.Reader
import BlockExtent.Proofs.Tiff.Sequences
import BlockExtent.Proofs.Tiff.Walks

/-!
# The walk along the pages of a file

The pages of a file are read by a loop along its directories, each of which is an image or a
mask.  A file may have its directories point anywhere, and yet the loop ends.

## Main definitions

* `Page.visit` — the visit of a directory.
* `GeoTiffRaster.EndsWalk` — the loop ends with some pages.

## Main results

* `GeoTiffRaster.pages_eq_visitEach` — the pages of a file are read directory by directory.
* `GeoTiffRaster.pages_walk` — **the loop ends, whatever the bytes are.**
-/

namespace BlockExtent

open Tiff
open Relation (ReflTransGen)

namespace Page

/-- The visit of a directory. -/
abbrev visit (file : Container) (loading : Loading) (d : Directory) : Except DecodeError Page :=
  Page.ofDirectory file d loading

/-- A page is an image or a mask. -/
theorem length_images_add_masks (pages : List Page) :
    (images pages).length + (masks pages).length = pages.length := by
  induction pages with
  | nil => rfl
  | cons page pages ih =>
    cases page with
    | image page =>
      change (images pages).length + 1 + (masks pages).length = pages.length + 1
      omega
    | mask subfileType =>
      change (images pages).length + ((masks pages).length + 1) = pages.length + 1
      omega

end Page

namespace GeoTiffRaster

/-- The pages of a file are read directory by directory. -/
theorem pages_eq_visitEach {source : ByteSource} {file : Container} {first : ℕ}
    (h : Container.start source = .ok (file, first)) :
    pages source = Chain.visitEach (Page.visit file) (Chain.directories file first).fault .limited
      (Chain.directories file first).visits := by
  unfold pages
  rw [h]
  exact Chain.follow_eq_visitEach file (Page.visit file) first

/-- The loop along the directories of a file, from the first one on, ends with some pages. -/
structure EndsWalk (file : Container) (first : Nat) (chain : Chain Page) : Prop where
  /-- Some round is the last one, and the visits up to it have given these pages. -/
  stops : ∃ w, ReflTransGen (Walk.GoesOn file (Page.visit file)) (Walk.start first) w
    ∧ w.Stops file (Page.visit file) chain
  /-- There is no end to look for in vain. -/
  not_endless : ¬ ∃ walks : ℕ → Walk Page, walks 0 = Walk.start first
    ∧ ∀ n, Walk.GoesOn file (Page.visit file) (walks n) (walks (n + 1))
  /-- Before each round, the directories that have been visited are different places in the
  file, the next one is none of them, and each has given an image or a mask. -/
  visits : ∀ w, ReflTransGen (Walk.GoesOn file (Page.visit file)) (Walk.start first) w →
    (w.position :: w.behind).Nodup
      ∧ (∀ p ∈ w.behind, p < file.source.bytes.size)
      ∧ (Page.images w.visits).length + (Page.masks w.visits).length = w.behind.length
      ∧ w.behind.length ≤ file.source.bytes.size
  /-- If no round fails, there are as many images and masks as there are directories from the
  first one on. -/
  counts : chain.fault = none → ∃ positions, IsLinked file (first :: positions)
    ∧ (∀ others, IsLinked file (first :: others) → others = positions)
    ∧ (first :: positions).Nodup
    ∧ (∀ p ∈ first :: positions, p < file.source.bytes.size)
    ∧ (Page.images chain.visits).length + (Page.masks chain.visits).length
      = (first :: positions).length

theorem endsWalk_follow (file : Container) (first : Nat) :
    EndsWalk file first (Chain.follow file (Page.visit file) first) where
  stops := Walk.exists_stops_follow file (Page.visit file) first
  not_endless := Walk.not_endless file (Page.visit file) first
  visits w hreach := by
    have horderly := Walk.isOrderly_of_reaches hreach
    have hle := horderly.length_visits_le
    rw [Page.length_images_add_masks]
    exact ⟨horderly.nodup, horderly.lt_size, horderly.length_visits,
      horderly.length_visits ▸ hle⟩
  counts hfault := by
    obtain ⟨w, hreach, hstops⟩ := Walk.exists_stops_follow file (Page.visit file) first
    obtain ⟨positions, hlinked, hnodup, hlt, hlength⟩ :=
      Walk.exists_isLinked_of_stops hreach hstops hfault
    refine ⟨positions, hlinked, fun _ hother => hother.eq hlinked, hnodup, hlt, ?_⟩
    rw [Page.length_images_add_masks, hlength]

/-- **The loop along the directories of a file ends, whatever its bytes are.**  It gives no more
images and masks than there are bytes. -/
theorem pages_walk (source : ByteSource) :
    (Page.images (pages source).visits).length + (Page.masks (pages source).visits).length
        ≤ source.bytes.size
      ∧ match Container.start source with
        | .error e => pages source = { visits := [], fault := some e }
        | .ok (file, first) => file.source = source ∧ EndsWalk file first (pages source) := by
  rw [Page.length_images_add_masks]
  unfold pages
  cases hstart : Container.start source with
  | error e => exact ⟨Nat.zero_le _, rfl⟩
  | ok found =>
    obtain ⟨file, first⟩ := found
    have hsource := Container.source_of_start hstart
    refine ⟨?_, hsource, endsWalk_follow file first⟩
    obtain ⟨w, hreach, hstops⟩ := Walk.exists_stops_follow file (Page.visit file) first
    rw [← hsource]
    exact Walk.length_visits_le_of_stops hreach hstops

end GeoTiffRaster

end BlockExtent
