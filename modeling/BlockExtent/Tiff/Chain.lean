import BlockExtent.Tiff.Directory

/-!
# The chain of directories

Each directory tells where the next one is.  A chain that comes back to a
directory is refused, so that following it ends.

## Main definitions

* `Chain α` — what visiting the directories of a chain gave, up to the first
  failure.
* `Chain.follow` — visits the directories of a file in their order.
-/

namespace BlockExtent.Tiff

/-- What visiting the directories of a chain gave. -/
structure Chain (α : Type) where
  /-- The results of the visits, in order. -/
  visits : List α
  /-- What ended the visits before the end of the chain. -/
  fault : Option DecodeError

namespace Chain

/-- The number of positions below `size` that are not among the visited ones. -/
def unvisited (size : Nat) (visited : List Nat) : Nat :=
  ((List.range size).filter fun position => !visited.contains position).length

/-- Visiting a new position leaves fewer. -/
theorem unvisited_cons_lt {size position : Nat} {visited : List Nat}
    (hlt : position < size) (hnew : position ∉ visited) :
    unvisited size (position :: visited) < unvisited size visited := by
  have hsplit : ((List.range size).filter fun p => !(position :: visited).contains p)
      = ((List.range size).filter fun p => !visited.contains p).filter
          (fun p => p != position) := by
    rw [List.filter_filter]
    refine List.filter_congr fun p _ => ?_
    by_cases h : p = position <;> simp [h]
  unfold unvisited
  rw [hsplit]
  refine List.length_filter_lt_length_iff_exists.mpr ⟨position, ?_, by simp⟩
  simp [hlt, hnew]

/-- A chain with a visit in front. -/
def cons {α : Type} (a : α) (rest : Chain α) : Chain α :=
  { rest with visits := a :: rest.visits }

variable {α : Type} (file : Container)
  (visit : Loading → Directory → Except DecodeError α)

/-- Visits the directory at a position and those after it.  A directory that is
followed by itself or by one of those in front of it is not visited any more. -/
def followFrom (loading : Loading) (visited : List Nat) (position : Nat)
    (hnew : position ∉ visited) : Chain α :=
  match hread : Directory.read file position with
  | .error e => { visits := [], fault := some e }
  | .ok d =>
    have := unvisited_cons_lt (Directory.lt_size_of_read hread) hnew
    if d.next = 0 then
      match visit loading d with
      | .error e => { visits := [], fault := some e }
      | .ok a => { visits := [a], fault := none }
    else if hcycle : d.next ∈ position :: visited then
      { visits := [], fault := some (.format .directoryCycle) }
    else
      match visit loading d with
      | .error e => { visits := [], fault := some e }
      | .ok a => cons a (followFrom .unlimited (position :: visited) d.next hcycle)
termination_by unvisited file.source.bytes.size visited
decreasing_by assumption

/-- Visits the directories of a file from the first one on.  Only the first is
loaded under a limit. -/
def follow (first : Nat) : Chain α :=
  followFrom file visit .limited [] first (by simp)

end Chain

end BlockExtent.Tiff
