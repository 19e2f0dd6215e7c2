import BlockExtent.Proofs.CommandLine.Documents
import BlockExtent.Proofs.CommandLine.Frame

/-!
# Levels that a command line meets

The levels of a raster that has been read are there, with pixels and blocks.  A run fetches
levels of such rasters only, and so it meets no level without pixels, nor one that is not there
unless it has been asked for by its number.

## Main definitions

* `MeetsLevels` — a run has not failed for want of a level.

## Main results

* `levels_of_accepted` — **every level of a file that is accepted can be used**, and is by runs.
-/

namespace BlockExtent

/-- A run has met no level without pixels, and not missed a level that nobody has asked for. -/
structure MeetsLevels (arguments : List String) (result : Except Failure Reply) : Prop where
  ne_emptyLevel : ∀ index fault, result ≠ .error (.emptyLevel index fault)
  ne_noSuchLevel : ∀ settings, Request.parse arguments = .ok (.convert settings) →
    settings.choice = .all → ∀ level count, result ≠ .error (.noSuchLevel level count)

theorem Disk.RunEnds.meetsLevels {σ : Type} {disk : Disk σ} {arguments : List String} {s₀ s : σ}
    {result : Except Failure Reply} (h : disk.RunEnds arguments s₀ result s) :
    MeetsLevels arguments result := by
  cases h with
  | usage hresult | level _ hresult =>
    subst hresult
    constructor <;> intros <;> nofun
  | refused cause hresult hcause =>
    subst hresult
    constructor
    · rintro index fault ⟨⟩
      exact hcause
    · rintro settings - - level count ⟨⟩
      exact hcause
  | writing settings raster hparse _ hends =>
    have hwriting := hends.2
    constructor
    · rintro index fault rfl
      exact hwriting
    · rintro settings' hparse' hall level count rfl
      rw [hparse] at hparse'
      cases hparse'
      exact hwriting hall

/-- **Every level of a file that is accepted can be used**, whatever the bytes are.  No run meets
a level that cannot, and one for all levels misses none. -/
theorem levels_of_accepted :
    (∀ (path : String) (source : Tiff.ByteSource) (raster : GeoTiffRaster),
        GeoTiffRaster.readSource path source = .ok raster → raster.OffersLevels)
      ∧ ∀ (σ : Type) (disk : Disk σ) (arguments : List String) (s₀ : σ),
        Run.Ensures (runCommandLine (Access.builtIn disk.store) arguments) s₀
          fun result _ => MeetsLevels arguments result := by
  refine ⟨fun path source raster h => GeoTiffRaster.offersLevels_of_readSource h, ?_⟩
  intro σ disk arguments s₀
  exact (disk.ensures_runCommandLine arguments s₀).mono fun _ _ hends => hends.meetsLevels

/-- The overview of a file of two levels, and no level behind it. -/
theorem levels_of_accepted_twoLevels :
    GeoTiffRaster.readSource "in.tif" (.ofFile twoLevelBytes) = .ok twoLevelRaster
      ∧ (∃ level, twoLevelRaster.level 1 = .ok level ∧ level.index = 1 ∧ 0 < level.grid.count)
      ∧ twoLevelRaster.level 2 = .error (.noSuchLevel 2 1) := by
  have hoffers := levels_of_accepted.1 "in.tif" (.ofFile twoLevelBytes) twoLevelRaster
    readSource_twoLevelBytes
  obtain ⟨level, hlevel, hindex, -, -, hblocks⟩ := hoffers.level_eq_ok 1 (by decide)
  exact ⟨readSource_twoLevelBytes, ⟨level, hlevel, hindex, hblocks⟩,
    hoffers.level_eq_error 2 (by decide) (by decide)⟩

end BlockExtent
