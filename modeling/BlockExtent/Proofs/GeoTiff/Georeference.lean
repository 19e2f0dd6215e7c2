import BlockExtent.GeoTiff.Georeference
import Mathlib.Data.Rat.Defs
import Mathlib.Tactic.Linarith
import Mathlib.Tactic.Ring

/-!
# Where the pixels are

The georeferencing tags say where some positions in pixels are: all of them by a matrix, or one of
them by a tie point, from which the others are so many pixels away.  A position is the corner of a
pixel, or its centre, half a pixel further along both axes.  Read over the rationals, the transform
of the tags is the only one that has each position where they say.

## Main definitions

* `GeoreferenceTags.PixelsArePoints` — positions are the centres of pixels.
* `GeoreferenceTags.Places` — a transform has a position at a point.
* `GeoreferenceTags.IsAnchored` — a transform has every position where the tags say.

## Main results

* `Geotransform.eq_of_apply` — a transform is known by the points of the corners.
* `GeoreferenceTags.places_geotransform` — moving the corners by half a pixel moves the centres to
  where the corners were.
* `GeoreferenceTags.geotransform_anchors` — **the transform of the tags has every pixel where they
  say**, and is as rotated as without any keys.
-/

namespace BlockExtent

namespace Geotransform

variable {t t' : Geotransform ℚ}

theorem apply_eq (t : Geotransform ℚ) (c r : ℚ) :
    t.apply c r = (t.originX + c * t.pixelWidth + r * t.rowRotation,
      t.originY + c * t.columnRotation + r * t.pixelHeight) := rfl

/-- A transform is known by where it has the corners. -/
theorem eq_of_apply (h : ∀ c r, t.apply c r = t'.apply c r) : t = t' := by
  -- the first corner tells the origin, and its neighbours tell the steps
  have hfirst := h 0 0
  have hright := h 1 0
  have hbelow := h 0 1
  simp only [apply_eq, Prod.mk.injEq, zero_mul, one_mul, add_zero] at hfirst hright hbelow
  obtain ⟨hx, hy⟩ := hfirst
  obtain ⟨hwidth, hcolumn⟩ := hright
  obtain ⟨hrow, hheight⟩ := hbelow
  cases t
  cases t'
  simp only [mk.injEq]
  dsimp only at hx hy hwidth hcolumn hrow hheight
  refine ⟨hx, ?_, ?_, hy, ?_, ?_⟩ <;> linarith

/-- The centres of a transform are the corners of the one that is moved back by half a pixel. -/
theorem centresToCorners_apply (t : Geotransform ℚ) (c r : ℚ) :
    t.centresToCorners.apply (c + 1 / 2) (r + 1 / 2) = t.apply c r := by
  have hx : t.centresToCorners.originX
      = t.originX - (t.pixelWidth * (1 / 2) + t.rowRotation * (1 / 2)) := rfl
  have hy : t.centresToCorners.originY
      = t.originY - (t.columnRotation * (1 / 2) + t.pixelHeight * (1 / 2)) := rfl
  rw [apply_eq, apply_eq, hx, hy]
  refine Prod.ext ?_ ?_ <;> simp only [centresToCorners] <;> ring

end Geotransform

namespace GeoreferenceTags

/-! ### Tags that are complete -/

section

variable {α : Type} {m points scale : List α}

/-- The transform of a complete matrix. -/
def transformOfMatrix (m : List α) (h : 16 ≤ m.length) : Geotransform α where
  originX := m[3]
  pixelWidth := m[0]
  rowRotation := m[1]
  originY := m[7]
  columnRotation := m[4]
  pixelHeight := m[5]

theorem ofMatrix?_eq_some (h : 16 ≤ m.length) : ofMatrix? m = some (transformOfMatrix m h) := by
  have hm : m = m[0] :: m[1] :: m[2] :: m[3] :: m[4] :: m[5] :: m[6] :: m[7] :: m[8] :: m[9]
      :: m[10] :: m[11] :: m[12] :: m[13] :: m[14] :: m[15] :: m.drop 16 := by
    simpa only [List.getElem_cons_drop] using List.drop_zero.symm
  unfold ofMatrix?
  split
  · rfl
  · rename_i hshort
    exact absurd hm (hshort _ _ _ _ _ _ _ _ _ _ _ _ _ _ _ _ _)

theorem ofMatrix?_eq_none (h : m.length < 16) : ofMatrix? m = none := by
  unfold ofMatrix?
  split
  · simp only [List.length_cons] at h
    omega
  · rfl

/-- A matrix that is too short is as good as none. -/
theorem bind_ofMatrix?_eq_none {tags : GeoreferenceTags α}
    (h : ∀ m, tags.transformation = some m → m.length < 16) :
    tags.transformation.bind ofMatrix? = none := by
  rw [Option.bind_eq_none_iff]
  exact fun m hm => ofMatrix?_eq_none (h m hm)

variable [Coordinate α]

/-- The transform of a tie point and the size of a pixel. -/
def transformOfTiepoint (points scale : List α) (h : 6 ≤ points.length) (h' : 2 ≤ scale.length) :
    Geotransform α where
  originX := points[3] - points[0] * scale[0]
  pixelWidth := scale[0]
  rowRotation := Coordinate.ofNat 0
  originY := points[4] - points[1] * -scale[1]
  columnRotation := Coordinate.ofNat 0
  pixelHeight := -scale[1]

theorem ofTiepoint?_eq_some (h : 6 ≤ points.length) (h' : 2 ≤ scale.length) :
    ofTiepoint? points scale = some (transformOfTiepoint points scale h h') := by
  have hpoints : points = points[0] :: points[1] :: points[2] :: points[3] :: points[4]
      :: points[5] :: points.drop 6 := by
    simpa only [List.getElem_cons_drop] using List.drop_zero.symm
  have hscale : scale = scale[0] :: scale[1] :: scale.drop 2 := by
    simpa only [List.getElem_cons_drop] using List.drop_zero.symm
  unfold ofTiepoint?
  split
  · rfl
  · rename_i hshort
    exact absurd hscale (hshort _ _ _ _ _ _ _ _ _ _ hpoints)

theorem ofTiepoint?_eq_none (h : points.length < 6 ∨ scale.length < 2) :
    ofTiepoint? points scale = none := by
  unfold ofTiepoint?
  split
  · simp only [List.length_cons] at h
    omega
  · rfl

variable {tags : GeoreferenceTags α}

/-- **A complete matrix alone decides.** -/
theorem named?_of_matrix (hm : tags.transformation = some m) (h : 16 ≤ m.length) :
    tags.named? = some (transformOfMatrix m h) := by
  unfold named?
  rw [hm, Option.bind_some, ofMatrix?_eq_some h]
  rfl

/-- Without a complete matrix a complete tie point decides. -/
theorem named?_of_tiepoint (hm : ∀ m, tags.transformation = some m → m.length < 16)
    (hpoints : tags.tiepoints = some points) (hscale : tags.pixelScale = some scale)
    (h : 6 ≤ points.length) (h' : 2 ≤ scale.length) :
    tags.named? = some (transformOfTiepoint points scale h h') := by
  unfold named?
  rw [bind_ofMatrix?_eq_none hm, hpoints, hscale]
  exact ofTiepoint?_eq_some h h'

/-- Without either nothing is named. -/
theorem named?_eq_none (hm : ∀ m, tags.transformation = some m → m.length < 16)
    (h : ∀ points scale, tags.tiepoints = some points → tags.pixelScale = some scale →
      points.length < 6 ∨ scale.length < 2) : tags.named? = none := by
  unfold named?
  rw [bind_ofMatrix?_eq_none hm]
  change (tags.tiepoints.bind fun points => tags.pixelScale.bind (ofTiepoint? points)) = none
  simp only [Option.bind_eq_none_iff]
  exact fun points hpoints scale hscale => ofTiepoint?_eq_none (h points scale hpoints hscale)

end

theorem transformOfMatrix_apply {m : List ℚ} (h : 16 ≤ m.length) (c r : ℚ) :
    (transformOfMatrix m h).apply c r
      = (m[0] * c + m[1] * r + m[3], m[4] * c + m[5] * r + m[7]) := by
  change (m[3] + c * m[0] + r * m[1], m[7] + c * m[4] + r * m[5]) = _
  refine Prod.ext ?_ ?_ <;> ring

/-- Positions are counted from the tie point. -/
theorem transformOfTiepoint_apply {points scale : List ℚ} (h : 6 ≤ points.length)
    (h' : 2 ≤ scale.length) (c r : ℚ) :
    (transformOfTiepoint points scale h h').apply (points[0] + c) (points[1] + r)
      = (points[3] + c * scale[0], points[4] - r * scale[1]) := by
  change (points[3] - points[0] * scale[0] + (points[0] + c) * scale[0] + (points[1] + r) * 0,
    points[4] - points[1] * -scale[1] + (points[0] + c) * 0 + (points[1] + r) * -scale[1]) = _
  refine Prod.ext ?_ ?_ <;> ring

/-! ### Corners and centres -/

/-- Positions are the centres of pixels. -/
def PixelsArePoints {α : Type} (tags : GeoreferenceTags α) : Prop :=
  ∃ keys, tags.keys = some keys ∧ keys.rasterType = some 2

theorem namesCentres_iff {α : Type} {tags : GeoreferenceTags α} :
    tags.namesCentres = true ↔ tags.PixelsArePoints := by
  unfold namesCentres PixelsArePoints
  rw [Option.any_eq_true]
  refine exists_congr fun keys => and_congr_right fun _ => ?_
  exact beq_iff_eq

variable {tags : GeoreferenceTags ℚ} {t t' : Geotransform ℚ}

/-- A transform has the position of a column and a row at a point: the corner there is at the point,
or the centre of the pixel. -/
def Places (tags : GeoreferenceTags ℚ) (t : Geotransform ℚ) (c r : ℚ) (point : ℚ × ℚ) : Prop :=
  (¬ tags.PixelsArePoints → t.apply c r = point)
    ∧ (tags.PixelsArePoints → t.apply (c + 1 / 2) (r + 1 / 2) = point)

/-- **The transform of corners has each position where the tags have it.** -/
theorem places_geotransform (h : tags.named? = some t) (c r : ℚ) :
    tags.Places tags.geotransform c r (t.apply c r) := by
  unfold geotransform
  rw [h]
  dsimp only
  by_cases hcentres : tags.namesCentres = true
  · have hpoints := namesCentres_iff.mp hcentres
    rw [if_pos hcentres]
    exact ⟨fun hnot => absurd hpoints hnot, fun _ => t.centresToCorners_apply c r⟩
  · have hareas := mt namesCentres_iff.mpr hcentres
    rw [if_neg hcentres]
    exact ⟨fun _ => rfl, fun hpoints => absurd hpoints hareas⟩

/-- A transform is known by where it has the positions. -/
theorem eq_of_places
    (h : ∀ c r, ∃ point, tags.Places t c r point ∧ tags.Places t' c r point) : t = t' := by
  refine Geotransform.eq_of_apply fun c r => ?_
  by_cases hpoints : tags.PixelsArePoints
  · obtain ⟨point, ⟨-, hplaces⟩, -, hplaces'⟩ := h (c - 1 / 2) (r - 1 / 2)
    have happly := (hplaces hpoints).trans (hplaces' hpoints).symm
    rwa [sub_add_cancel, sub_add_cancel] at happly
  · obtain ⟨point, ⟨hplaces, -⟩, hplaces', -⟩ := h c r
    exact (hplaces hpoints).trans (hplaces' hpoints).symm

/-! ### Where the tags have the pixels -/

/-- A transform has every position where the tags say. -/
structure IsAnchored (tags : GeoreferenceTags ℚ) (t : Geotransform ℚ) : Prop where
  /-- A matrix of at least sixteen numbers says where all positions are. -/
  matrix : ∀ m, tags.transformation = some m → ∀ h : 16 ≤ m.length, ∀ c r,
    tags.Places t c r (m[0] * c + m[1] * r + m[3], m[4] * c + m[5] * r + m[7])
  /-- Without one, a tie point says where one position is, and a scale how large the pixels are. -/
  tiepoint : (∀ m, tags.transformation = some m → m.length < 16) →
    ∀ points scale, tags.tiepoints = some points → tags.pixelScale = some scale →
    ∀ (h : 6 ≤ points.length) (h' : 2 ≤ scale.length), ∀ c r,
    tags.Places t (points[0] + c) (points[1] + r)
      (points[3] + c * scale[0], points[4] - r * scale[1])
  /-- Without a tie point and a scale either, corners stand for themselves. -/
  identity : (∀ m, tags.transformation = some m → m.length < 16) →
    (∀ points scale, tags.tiepoints = some points → tags.pixelScale = some scale →
      points.length < 6 ∨ scale.length < 2) → t = .identity

/-- The transform of the tags has every position where they say. -/
theorem isAnchored_geotransform (tags : GeoreferenceTags ℚ) :
    tags.IsAnchored tags.geotransform where
  matrix m hm h c r := by
    rw [← transformOfMatrix_apply h]
    exact places_geotransform (named?_of_matrix hm h) c r
  tiepoint hm points scale hpoints hscale h h' c r := by
    rw [← transformOfTiepoint_apply h h']
    exact places_geotransform (named?_of_tiepoint hm hpoints hscale h h') _ _
  identity hm h := by
    unfold geotransform
    rw [named?_eq_none hm h]

/-- No other transform has. -/
theorem IsAnchored.eq_geotransform (h : tags.IsAnchored t) : t = tags.geotransform := by
  have hgeotransform := isAnchored_geotransform tags
  by_cases hmatrix : ∀ m, tags.transformation = some m → m.length < 16
  · by_cases htiepoint : ∀ points scale, tags.tiepoints = some points →
        tags.pixelScale = some scale → points.length < 6 ∨ scale.length < 2
    · rw [h.identity hmatrix htiepoint, hgeotransform.identity hmatrix htiepoint]
    · simp only [not_forall, not_or, not_lt] at htiepoint
      obtain ⟨points, scale, hpoints, hscale, hlength, hlength'⟩ := htiepoint
      have hsame : ∀ c r, ∃ point, tags.Places t c r point
          ∧ tags.Places tags.geotransform c r point := by
        intro c r
        have hplaces := h.tiepoint hmatrix points scale hpoints hscale hlength hlength'
          (c - points[0]) (r - points[1])
        have hplaces' := hgeotransform.tiepoint hmatrix points scale hpoints hscale hlength
          hlength' (c - points[0]) (r - points[1])
        rw [add_sub_cancel, add_sub_cancel] at hplaces hplaces'
        exact ⟨_, hplaces, hplaces'⟩
      exact eq_of_places hsame
  · simp only [not_forall, not_lt] at hmatrix
    obtain ⟨m, hm, hlength⟩ := hmatrix
    exact eq_of_places fun c r =>
      ⟨_, h.matrix m hm hlength c r, hgeotransform.matrix m hm hlength c r⟩

/-- **The transform of the tags is the only one that has every pixel where they say.**  Whether it
is rotated does not depend on what positions are, in no arithmetic. -/
theorem geotransform_anchors :
    (∀ (tags : GeoreferenceTags ℚ) (t : Geotransform ℚ),
        tags.IsAnchored t ↔ t = tags.geotransform)
      ∧ ∀ (α : Type) [Coordinate α] (tags : GeoreferenceTags α) (keys : Option KeyDirectory),
        { tags with keys }.geotransform.isRotated = tags.geotransform.isRotated := by
  refine ⟨fun tags t => ⟨fun h => h.eq_geotransform, ?_⟩, ?_⟩
  · rintro rfl
    exact isAnchored_geotransform tags
  · intro α _ tags keys
    have hnamed : { tags with keys }.named? = tags.named? := rfl
    unfold geotransform
    rw [hnamed]
    cases tags.named? with
    | none => rfl
    | some t =>
      dsimp only
      split_ifs <;> rfl

end GeoreferenceTags

end BlockExtent
