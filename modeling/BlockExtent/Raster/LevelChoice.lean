import BlockExtent.Number.Word

/-!
# Which levels a run visits

## Main definitions

* `LevelChoice` — all levels or a single one.
* `LevelChoice.levels` — the levels to visit, in order.
-/

namespace BlockExtent

/-- The levels a run is asked for. -/
inductive LevelChoice where
  /-- The full resolution image, then every overview in increasing reduction. -/
  | all
  /-- Exactly one level, which need not exist. -/
  | single (level : Int)
deriving DecidableEq, Repr, Inhabited

/-- A count of 63 bits is a signed word itself. -/
theorem signedWord_count {count : Nat} (h : count < wordCount 63) :
    signedWord 64 count = count := by
  have hbits : wordCount 64 = 2 * wordCount 63 := by decide
  exact signedWord_eq_self (by omega) (by omega)

namespace LevelChoice

/-- The levels to visit for a raster with `overviewCount` overviews.  A single
level is passed on as it is: whether it exists is decided where it is fetched.
Counts are signed 64-bit words, so one that does not fit selects nothing. -/
def levels : LevelChoice → (overviewCount : Nat) → List Int
  | .all, overviewCount =>
    (List.range (signedWord 64 overviewCount + 1).toNat).map Int.ofNat
  | .single level, _ => [level]

/-- All levels are the full resolution image and the overviews, in order, when
the count fits. -/
theorem levels_all {count : Nat} (h : count < wordCount 63) :
    all.levels count = (List.range (count + 1)).map Int.ofNat := by
  simp only [levels, signedWord_count h]
  rfl

end LevelChoice

end BlockExtent
