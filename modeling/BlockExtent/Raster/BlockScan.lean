import BlockExtent.Raster.Block
import BlockExtent.Raster.PyramidLevel

/-!
# Scanning the blocks of a level

A scan visits the blocks of a level row by row, from left to right in each row.
It counts the blocks it has given out, up to the number that the grid has in a
word; the position of a block in the grid is the quotient and the remainder of
that count by the length of a row.

## Main definitions

* `BlockScan` — a scan, somewhere between its first block and its end.
* `BlockScan.ofLevel` — the scan of a level, at its start.
* `BlockScan.step` — the next block and the scan after it.
* `BlockScan.nth`, `BlockScan.last?`, `BlockScan.take`, `BlockScan.toList` —
  skipping, looking at the end, and collecting.
-/

namespace BlockExtent

/-- A scan over the blocks of one level. -/
structure BlockScan (α : Type) where
  /-- The level scanned. -/
  level : Nat
  /-- The transform of the level. -/
  transform : Geotransform α
  /-- The size of a block. -/
  blockSize : Size
  /-- The grid of blocks. -/
  grid : Grid
  /-- The number of blocks given out. -/
  next : Nat

namespace BlockScan

variable {α : Type} [Coordinate α]

/-- The scan of a level whose transform is `t`, before its first block. -/
def ofLevel (l : PyramidLevel) (t : Geotransform α) : BlockScan α where
  level := l.index
  transform := t
  blockSize := l.blockSize
  grid := l.grid
  next := 0

/-- The rectangle of the block that is the `k`-th in scan order. -/
def blockAt (s : BlockScan α) (k : Nat) : BlockRectangle α :=
  .ofBlock s.level s.transform s.blockSize (k % s.grid.across) (k / s.grid.across)

/-- The number of blocks still to come. -/
def remaining (s : BlockScan α) : Nat := s.grid.count - s.next

/-- The next block, if any, and the scan after it. -/
def step (s : BlockScan α) : Option (BlockRectangle α) × BlockScan α :=
  if s.next < s.grid.count then (some (s.blockAt s.next), { s with next := s.next + 1 })
  else (none, s)

/-- Passes over `n` blocks and gives the one after them.  Stops at the end of
the scan. -/
def nth : Nat → BlockScan α → Option (BlockRectangle α) × BlockScan α
  | 0, s => s.step
  | n + 1, s =>
    match s.step with
    | (none, rest) => (none, rest)
    | (some _, rest) => nth n rest

/-- The blocks still to come, in order. -/
def toList (s : BlockScan α) : List (BlockRectangle α) :=
  (List.range' s.next s.remaining).map s.blockAt

/-- At most `n` of the blocks still to come, in order. -/
def take (n : Nat) (s : BlockScan α) : List (BlockRectangle α) :=
  (List.range' s.next (min n s.remaining)).map s.blockAt

/-- The last of the blocks still to come. -/
def last? (s : BlockScan α) : Option (BlockRectangle α) :=
  if s.next < s.grid.count then some (s.blockAt (s.grid.count - 1)) else none

/-- The scan with nothing left to come. -/
def finish (s : BlockScan α) : BlockScan α :=
  { s with next := max s.next s.grid.count }

omit [Coordinate α] in
@[simp] theorem remaining_finish (s : BlockScan α) : s.finish.remaining = 0 := by
  simp only [remaining, finish]
  omega

@[simp] theorem length_toList (s : BlockScan α) : s.toList.length = s.remaining := by
  simp [toList]

theorem toList_of_step_none {s rest : BlockScan α} (h : s.step = (none, rest)) :
    s.toList = [] ∧ rest = s := by
  unfold step at h
  split at h
  · simp at h
  · have hs : s.remaining = 0 := by simp only [remaining]; omega
    simp_all [toList]

theorem toList_of_step_some {s rest : BlockScan α} {b : BlockRectangle α}
    (h : s.step = (some b, rest)) : s.toList = b :: rest.toList := by
  unfold step at h
  split at h
  · rename_i hlt
    obtain ⟨rfl, rfl⟩ : s.blockAt s.next = b ∧ { s with next := s.next + 1 } = rest := by
      simpa using h
    have hs : s.remaining = (s.grid.count - (s.next + 1)) + 1 := by
      simp only [remaining]; omega
    simp only [toList, hs, List.range'_succ, List.map_cons]
    rfl
  · simp at h

/-- Passing over a block is a step that forgets it. -/
theorem nth_succ_of_step_some {s rest : BlockScan α} {b : BlockRectangle α} (n : Nat)
    (h : s.step = (some b, rest)) : s.nth (n + 1) = rest.nth n := by
  simp [nth, h]

/-- Behind the end there is nothing to pass over. -/
theorem nth_of_step_none {s rest : BlockScan α} (n : Nat) (h : s.step = (none, rest)) :
    s.nth n = (none, s) := by
  obtain ⟨-, rfl⟩ := toList_of_step_none h
  cases n <;> simp [nth, h]

theorem last?_eq (s : BlockScan α) : s.last? = s.toList.getLast? := by
  unfold last? toList remaining
  split
  · rename_i h
    rw [List.getLast?_map, List.getLast?_range']
    have hpos : s.grid.count - s.next ≠ 0 := by omega
    simp only [hpos, ↓reduceIte, Option.map_some]
    congr 2
    omega
  · rename_i h
    have hzero : s.grid.count - s.next = 0 := by omega
    simp [hzero]

end BlockScan

end BlockExtent
