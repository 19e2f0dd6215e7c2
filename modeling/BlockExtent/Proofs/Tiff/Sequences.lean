import BlockExtent.Proofs.Tiff.Chains

/-!
# The directories of a file in order

A chain can be followed in two steps: first its directories are collected, and then they are
visited one after the other.  Where the directories lie makes no difference to the visits.

## Main definitions

* `Chain.directories` — the directories of a file.
* `Chain.visitEach` — visits directories in order, up to the first failure.

## Main results

* `Chain.follow_eq_visitEach` — **following a chain is visiting its directories in order.**
* `Chain.visitEach_congr` — directories that are visited alike.
* `Chain.forall₂_of_visitEach` — visits none of which fails.
-/

namespace BlockExtent.Tiff.Chain

variable {α : Type}

/-- The directories of a file from the first one on, up to one that cannot be read or goes back. -/
def directories (file : Container) (first : Nat) : Chain Directory :=
  follow file (fun _ d => .ok d) first

/-- Visits directories in order, up to the first failure.  If there is none, what ended the
directories ends the visits. -/
def visitEach (visit : Loading → Directory → Except DecodeError α) (fault : Option DecodeError) :
    Loading → List Directory → Chain α
  | _, [] => { visits := [], fault }
  | loading, d :: ds =>
    match visit loading d with
    | .error e => { visits := [], fault := some e }
    | .ok a => cons a (visitEach visit fault .unlimited ds)

@[simp] theorem visits_cons (a : α) (rest : Chain α) :
    (cons a rest).visits = a :: rest.visits := rfl

@[simp] theorem fault_cons (a : α) (rest : Chain α) : (cons a rest).fault = rest.fault := rfl

section Follow

variable {file : Container} {visit : Loading → Directory → Except DecodeError α}
  {loading : Loading} {visited : List Nat} {position : Nat} {hnew : position ∉ visited}
  {d : Directory}

/-- A directory that cannot be read ends the chain. -/
theorem followFrom_unread {cause : DecodeError}
    (hread : Directory.read file position = .error cause) :
    followFrom file visit loading visited position hnew
      = { visits := [], fault := some cause } := by
  rw [followFrom]
  split
  · rename_i e herror
    rw [hread] at herror
    cases herror
    rfl
  · rename_i d hok
    rw [hread] at hok
    cases hok

/-- A directory that goes back ends the chain. -/
theorem followFrom_cycle (hread : Directory.read file position = .ok d) (hnext : d.next ≠ 0)
    (hcycle : d.next ∈ position :: visited) :
    followFrom file visit loading visited position hnew
      = { visits := [], fault := some (.format .directoryCycle) } := by
  rw [followFrom]
  split
  · rename_i e herror
    rw [hread] at herror
    cases herror
  · rename_i d' hok
    rw [hread] at hok
    cases hok
    rw [if_neg hnext, dif_pos hcycle]

/-- Collecting directories never fails by the directories. -/
theorem followFrom_eq_visitEach (keeping : Loading) :
    followFrom file visit loading visited position hnew
      = visitEach visit (followFrom file (fun _ d => .ok d) keeping visited position hnew).fault
        loading (followFrom file (fun _ d => .ok d) keeping visited position hnew).visits := by
  -- a directory is collected before it is visited, so that a visit that fails is the last one of
  -- the right hand side too
  fun_induction followFrom file visit loading visited position hnew generalizing keeping with
  | case1 loading visited position hnew e hread =>
    rw [followFrom_unread hread]
    rfl
  | case2 loading visited position hnew d hread _ hnext e hvisit =>
    rw [followFrom_last hread hnext rfl, visitEach, hvisit]
  | case3 loading visited position hnew d hread _ hnext a hvisit =>
    rw [followFrom_last hread hnext rfl, visitEach, hvisit]
    rfl
  | case4 loading visited position hnew d hread _ hnext hcycle =>
    rw [followFrom_cycle hread hnext hcycle]
    rfl
  | case5 loading visited position hnew d hread _ hnext hcycle e hvisit =>
    rw [followFrom_next hread hnext hcycle rfl, visits_cons, visitEach, hvisit]
  | case6 loading visited position hnew d hread _ hnext hcycle a hvisit ih =>
    rw [followFrom_next hread hnext hcycle rfl, visits_cons, fault_cons, visitEach, hvisit,
      ih .unlimited]

end Follow

/-- **Following a chain is visiting its directories in order.** -/
theorem follow_eq_visitEach (file : Container)
    (visit : Loading → Directory → Except DecodeError α) (first : Nat) :
    follow file visit first
      = visitEach visit (directories file first).fault .limited (directories file first).visits :=
  followFrom_eq_visitEach .limited

variable {visit visit' : Loading → Directory → Except DecodeError α} {fault : Option DecodeError}

/-- Directories that are visited alike give the same chain. -/
theorem visitEach_congr {ds ds' : List Directory}
    (h : List.Forall₂ (fun d d' => ∀ loading, visit loading d = visit' loading d') ds ds')
    (loading : Loading) :
    visitEach visit fault loading ds = visitEach visit' fault loading ds' := by
  induction h generalizing loading with
  | nil => rfl
  | cons hvisit _ ih => rw [visitEach, visitEach, hvisit loading, ih .unlimited]

/-- If no visit fails, each directory has been visited. -/
theorem forall₂_of_visitEach {loading : Loading} {ds : List Directory}
    (h : (visitEach visit fault loading ds).fault = none) :
    List.Forall₂ (fun d a => ∃ loading, visit loading d = .ok a) ds
      (visitEach visit fault loading ds).visits := by
  induction ds generalizing loading with
  | nil => exact .nil
  | cons d ds ih =>
    rw [visitEach] at h ⊢
    cases hvisit : visit loading d with
    | error e =>
      rw [hvisit] at h
      cases h
    | ok a =>
      rw [hvisit] at h
      exact .cons ⟨loading, hvisit⟩ (ih h)

end BlockExtent.Tiff.Chain
