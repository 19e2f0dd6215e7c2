import BlockExtent.Proofs.Result
import BlockExtent.Tiff.Chain
import Mathlib.Data.List.Perm.Subperm
import Mathlib.Data.List.Nodup
import Mathlib.Tactic.SplitIfs

/-!
# Following a chain

A step of a chain reads a directory, visits it and goes on where it points to.  Since a
chain comes to no position twice, it has no more directories than there are positions.

## Main results

* `Chain.followFrom_last`, `Chain.followFrom_next`, `Chain.followFrom_fault` — the steps of a
  chain.
* `Chain.followFrom_congr` — a chain depends on the visits of its directories alone.
* `Chain.Ascends.followFrom_eq` — directories that lie one behind the other.
* `Chain.exists_visit_of_mem_followFrom` — the results of a chain.
* `Chain.length_visits_le` — the number of directories of a chain.
-/

namespace BlockExtent.Tiff

/-- A directory is read at a position that the source works with. -/
theorem Directory.lt_positionBound_of_read {file : Container} {position : Nat} {d : Directory}
    (h : Directory.read file position = .ok d) : position < file.source.positionBound := by
  unfold Directory.read Container.number ByteSource.read at h
  by_contra hle
  rw [if_pos (by omega)] at h
  cases h

/-- The container that starts a file reads from it. -/
theorem Container.source_of_start {source : ByteSource} {file : Container} {first : Nat}
    (h : start source = .ok (file, first)) : file.source = source := by
  unfold start at h
  split at h
  · cases h
  · obtain ⟨version, -, h⟩ := bind_eq_ok h
    dsimp only at h
    split_ifs at h
    · obtain ⟨first, -, h⟩ := bind_eq_ok h
      cases h
      rfl
    · -- a header of 64-bit words has two more numbers that may be refused
      obtain ⟨offsetSize, -, h⟩ := bind_eq_ok h
      split_ifs at h
      · cases h
      · obtain ⟨reserved, -, h⟩ := bind_eq_ok h
        split_ifs at h
        · cases h
        · obtain ⟨first, -, h⟩ := bind_eq_ok h
          cases h
          rfl

namespace Chain

variable {α : Type} {file : Container} {visit : Loading → Directory → Except DecodeError α}
  {loading : Loading} {visited : List Nat} {position : Nat} {hnew : position ∉ visited}
  {d : Directory} {a : α}

/-- A directory that tells of no other one ends the chain. -/
theorem followFrom_last (hread : Directory.read file position = .ok d) (hnext : d.next = 0)
    (hvisit : visit loading d = .ok a) :
    followFrom file visit loading visited position hnew = { visits := [a], fault := none } := by
  unfold followFrom
  split
  · rename_i e herror
    rw [hread] at herror
    cases herror
  · rename_i d' hok
    rw [hread] at hok
    cases hok
    rw [if_pos hnext, hvisit]

/-- A directory that tells of a new one is followed by it. -/
theorem followFrom_next (hread : Directory.read file position = .ok d) (hnext : d.next ≠ 0)
    (hcycle : d.next ∉ position :: visited) (hvisit : visit loading d = .ok a) :
    followFrom file visit loading visited position hnew
      = cons a (followFrom file visit .unlimited (position :: visited) d.next hcycle) := by
  rw [followFrom]
  split
  · rename_i e herror
    rw [hread] at herror
    cases herror
  · rename_i d' hok
    rw [hread] at hok
    cases hok
    rw [if_neg hnext, dif_neg hcycle, hvisit]

/-- A directory that cannot be visited ends the chain. -/
theorem followFrom_fault {cause : DecodeError} (hread : Directory.read file position = .ok d)
    (hnext : d.next = 0 ∨ d.next ∉ position :: visited) (hvisit : visit loading d = .error cause) :
    followFrom file visit loading visited position hnew
      = { visits := [], fault := some cause } := by
  rw [followFrom]
  split
  · rename_i e herror
    rw [hread] at herror
    cases herror
  · rename_i d' hok
    rw [hread] at hok
    cases hok
    rw [hvisit]
    split
    · rfl
    · rename_i hlast
      rw [dif_neg (hnext.resolve_left hlast)]

/-- What the first directory is loaded under makes no difference to a chain, if it makes none to
the visit of that directory. -/
theorem followFrom_congr {loading' : Loading}
    (h : ∀ d, Directory.read file position = .ok d → visit loading d = visit loading' d) :
    followFrom file visit loading visited position hnew
      = followFrom file visit loading' visited position hnew := by
  rw [followFrom, followFrom]
  split
  · rfl
  · rename_i d hread
    rw [h d hread]

/-- Directories lie one behind the other, and visits of them give some results. -/
inductive Ascends (file : Container) (visit : Loading → Directory → Except DecodeError α) :
    Loading → (position : Nat) → (results : List α) → Prop where
  /-- The last directory. -/
  | last {loading : Loading} {position : Nat} {d : Directory} {a : α}
      (hread : Directory.read file position = .ok d) (hnext : d.next = 0)
      (hvisit : visit loading d = .ok a) : Ascends file visit loading position [a]
  /-- A directory in front of others. -/
  | cons {loading : Loading} {position : Nat} {d : Directory} {a : α} {results : List α}
      (hread : Directory.read file position = .ok d) (hlt : position < d.next)
      (hvisit : visit loading d = .ok a) (hrest : Ascends file visit .unlimited d.next results) :
      Ascends file visit loading position (a :: results)

/-- **Directories that lie one behind the other are followed to the last.**  Each lies behind all
that were visited, which is why none comes twice. -/
theorem Ascends.followFrom_eq {results : List α} (h : Ascends file visit loading position results)
    (hvisited : ∀ p ∈ visited, p < position) :
    followFrom file visit loading visited position hnew
      = { visits := results, fault := none } := by
  induction h generalizing visited with
  | last hread hnext hvisit => exact followFrom_last hread hnext hvisit
  | @cons loading position d a results hread hlt hvisit _ ih =>
    have hbefore : ∀ p ∈ position :: visited, p < d.next :=
      List.forall_mem_cons.mpr ⟨hlt, fun p hp => Nat.lt_trans (hvisited p hp) hlt⟩
    have hcycle : d.next ∉ position :: visited := fun hmem => Nat.lt_irrefl _ (hbefore _ hmem)
    rw [followFrom_next hread (by omega) hcycle hvisit, ih hbefore]
    rfl

/-- What the visits of a chain gave is what visits of directories of the file give. -/
theorem exists_visit_of_mem_followFrom
    (h : a ∈ (followFrom file visit loading visited position hnew).visits) :
    ∃ loading position d, Directory.read file position = .ok d ∧ visit loading d = .ok a := by
  fun_induction followFrom file visit loading visited position hnew with
  | case1 | case2 | case4 | case5 => cases h
  | case3 loading visited position hnew d hread _ hnext b hvisit =>
    obtain rfl := List.mem_singleton.mp h
    exact ⟨loading, position, d, hread, hvisit⟩
  | case6 loading visited position hnew d hread _ hnext hcycle b hvisit ih =>
    rcases List.mem_cons.mp h with rfl | hrest
    · exact ⟨loading, position, d, hread, hvisit⟩
    · exact ih hrest

/-- Different numbers below a bound are no more than the bound. -/
theorem length_le_of_nodup {positions : List Nat} {bound : Nat}
    (hnodup : positions.Nodup) (hlt : ∀ p ∈ positions, p < bound) : positions.length ≤ bound := by
  have hsubset : positions ⊆ List.range bound := fun p hp => List.mem_range.mpr (hlt p hp)
  have hlength := (hnodup.subperm hsubset).length_le
  rwa [List.length_range] at hlength

/-- **A chain has no more directories than there are positions**, since it comes to
none of them twice. -/
theorem length_visits_le (file : Container)
    (visit : Loading → Directory → Except DecodeError α) (loading : Loading)
    {visited : List Nat} {position : Nat} (hnew : position ∉ visited)
    (hnodup : visited.Nodup) (hlt : ∀ p ∈ visited, p < file.source.positionBound) :
    (followFrom file visit loading visited position hnew).visits.length + visited.length
      ≤ file.source.positionBound := by
  have hvisited := length_le_of_nodup hnodup hlt
  -- a chain that stops has its positions among those visited; one that goes on adds one
  fun_induction followFrom file visit loading visited position hnew with
  | case1 | case2 | case4 | case5 => simpa using hvisited
  | case3 loading visited position hnew d hread =>
    have hlt' : ∀ p ∈ position :: visited, p < file.source.positionBound :=
      List.forall_mem_cons.mpr ⟨Directory.lt_positionBound_of_read hread, hlt⟩
    have hlength := length_le_of_nodup (hnodup.cons hnew) hlt'
    rw [List.length_cons] at hlength
    simpa [Nat.add_comm] using hlength
  | case6 loading visited position hnew d hread _ _ hcycle a _ ih =>
    have hlt' : ∀ p ∈ position :: visited, p < file.source.positionBound :=
      List.forall_mem_cons.mpr ⟨Directory.lt_positionBound_of_read hread, hlt⟩
    have hnodup' := hnodup.cons hnew
    have hstep := ih hnodup' hlt' (length_le_of_nodup hnodup' hlt')
    rw [List.length_cons] at hstep
    change (_ + 1) + _ ≤ _
    omega

end Chain

end BlockExtent.Tiff
