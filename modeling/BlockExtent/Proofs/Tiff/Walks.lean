import BlockExtent.Proofs.Tiff.Chains
import Mathlib.Logic.Relation

/-!
# Walking along a chain

The directories of a file are visited in a loop.  A round of it reads the directory where the
walk stands and visits it, and then the walk is over or goes on where the directory points to.
Nothing is counted on the way.  The loop ends since no round takes the walk to a directory that
it has been to, and a directory that has been read takes up one of the positions in the file.

## Main definitions

* `Walk`, `Walk.round` — where a walk stands, and a round of the loop.
* `Walk.GoesOn`, `Walk.Stops` — the rounds after which there is another one, and the others.
* `Walk.IsOrderly` — what holds before each round.
* `IsLinked` — directories of which each leads to the next.

## Main results

* `Walk.isOrderly_of_reaches` — a walk never comes to a directory twice.
* `Walk.not_endless` — **no walk goes on for ever.**
* `Walk.exists_stops_follow` — following a chain is what the loop does.
* `Walk.exists_isLinked_of_stops` — the directories of a walk that succeeds.
-/

namespace BlockExtent.Tiff

open Relation (ReflTransGen)

/-! ### Linked directories -/

/-- Each of the directories at some positions leads to the next one, and the last one leads
nowhere. -/
inductive IsLinked (file : Container) : (positions : List Nat) → Prop
  /-- A directory that leads nowhere. -/
  | last {position : Nat} {d : Directory} (hread : Directory.read file position = .ok d)
      (hnext : d.next = 0) : IsLinked file [position]
  /-- A directory that leads to one of which the same is known. -/
  | next {position : Nat} {d : Directory} {positions : List Nat}
      (hread : Directory.read file position = .ok d) (hnext : d.next ≠ 0)
      (hrest : IsLinked file (d.next :: positions)) :
      IsLinked file (position :: d.next :: positions)

/-- The first directory settles which ones follow it. -/
theorem IsLinked.eq {file : Container} {position : Nat} {positions others : List Nat}
    (h : IsLinked file (position :: positions)) (h' : IsLinked file (position :: others)) :
    positions = others := by
  induction positions generalizing position others with
  | nil =>
    obtain ⟨hread, hnext⟩ | _ := h
    cases h' with
    | last => rfl
    | next hread' hnext' _ =>
      rw [hread] at hread'
      cases hread'
      exact absurd hnext hnext'
  | cons second positions ih =>
    obtain _ | ⟨hread, hnext, hrest⟩ := h
    cases h' with
    | last hread' hnext' =>
      rw [hread] at hread'
      cases hread'
      exact absurd hnext' hnext
    | next hread' _ hrest' =>
      rw [hread] at hread'
      cases hread'
      exact congrArg _ (ih hrest hrest')

/-! ### Rounds of the loop -/

/-- Where a walk along the directories of a file stands. -/
structure Walk (α : Type) where
  /-- What the visits gave, in order. -/
  visits : List α
  /-- Where the directories that have been visited are, the last one first. -/
  behind : List Nat
  /-- Where the directory is that comes next. -/
  position : Nat

namespace Walk

variable {α : Type} {file : Container} {visit : Loading → Directory → Except DecodeError α}
  {first : Nat} {w w' : Walk α}

/-- A walk before its first round. -/
def start (first : Nat) : Walk α where
  visits := []
  behind := []
  position := first

/-- Only the first directory is loaded under a limit. -/
def loading (w : Walk α) : Loading := if w.behind = [] then .limited else .unlimited

/-- A round of the loop: what the visit of the directory gives, and where the next directory
is. -/
def round (file : Container) (visit : Loading → Directory → Except DecodeError α) (w : Walk α) :
    Except DecodeError (α × Nat) := do
  let d ← Directory.read file w.position
  if d.next ≠ 0 ∧ d.next ∈ w.position :: w.behind then throw (.format .directoryCycle)
  let a ← visit w.loading d
  return (a, d.next)

/-- A walk after a round. -/
def advance (w : Walk α) (a : α) (next : Nat) : Walk α where
  visits := w.visits ++ [a]
  behind := w.position :: w.behind
  position := next

/-- A round with another one after it. -/
def GoesOn (file : Container) (visit : Loading → Directory → Except DecodeError α)
    (w w' : Walk α) : Prop :=
  ∃ a next, w.round file visit = .ok (a, next) ∧ next ≠ 0 ∧ w' = w.advance a next

/-- The last round, and what the visits have given by then. -/
inductive Stops (file : Container) (visit : Loading → Directory → Except DecodeError α)
    (w : Walk α) : Chain α → Prop
  /-- The round fails. -/
  | failed {e : DecodeError} (hround : w.round file visit = .error e) :
      Stops file visit w { visits := w.visits, fault := some e }
  /-- The directory leads nowhere. -/
  | ended {a : α} (hround : w.round file visit = .ok (a, 0)) :
      Stops file visit w { visits := w.visits ++ [a], fault := none }

/-- What a round that succeeds has found. -/
theorem round_eq_ok {a : α} {next : Nat} (h : w.round file visit = .ok (a, next)) :
    ∃ d, Directory.read file w.position = .ok d ∧ visit w.loading d = .ok a ∧ d.next = next
      ∧ (next ≠ 0 → next ∉ w.position :: w.behind) := by
  unfold round at h
  obtain ⟨d, hread, h⟩ := bind_eq_ok h
  split_ifs at h with hcycle
  · cases h
  · obtain ⟨b, hvisit, hpure⟩ := bind_eq_ok h
    cases hpure
    exact ⟨d, hread, hvisit, rfl, fun hnext hmem => hcycle ⟨hnext, hmem⟩⟩

/-- A round at a directory that can be read. -/
theorem round_of_read {d : Directory} (h : Directory.read file w.position = .ok d) :
    w.round file visit
      = if d.next ≠ 0 ∧ d.next ∈ w.position :: w.behind then .error (.format .directoryCycle)
        else (visit w.loading d).map fun a => (a, d.next) := by
  unfold round
  rw [h, ok_bind]
  dsimp only
  split_ifs
  · rfl
  · cases visit w.loading d <;> rfl

/-! ### What holds before each round -/

/-- The directories that a walk has visited from the first one on are different ones of the
file, each of them leads to the next, and the last one leads to where the walk stands. -/
structure IsOrderly (file : Container) (first : Nat) (w : Walk α) : Prop where
  getLast?_eq : (w.position :: w.behind).getLast? = some first
  nodup : (w.position :: w.behind).Nodup
  lt_size : ∀ p ∈ w.behind, p < file.source.bytes.size
  length_visits : w.visits.length = w.behind.length
  isLinked : ∀ positions, IsLinked file (w.position :: positions) →
    IsLinked file (w.behind.reverse ++ w.position :: positions)

theorem isOrderly_start (file : Container) (first : Nat) :
    (start first : Walk α).IsOrderly file first where
  getLast?_eq := rfl
  nodup := List.nodup_singleton first
  lt_size := by rintro _ ⟨⟩
  length_visits := rfl
  isLinked _ h := h

/-- A round keeps a walk orderly. -/
theorem IsOrderly.goesOn (h : w.IsOrderly file first) (hround : GoesOn file visit w w') :
    w'.IsOrderly file first := by
  obtain ⟨a, next, hround, hnext, rfl⟩ := hround
  obtain ⟨d, hread, -, rfl, hnew⟩ := round_eq_ok hround
  refine ⟨h.getLast?_eq, h.nodup.cons (hnew hnext), ?_, ?_, ?_⟩
  · exact List.forall_mem_cons.mpr ⟨Directory.lt_size_of_read hread, h.lt_size⟩
  · unfold advance
    rw [List.length_append, h.length_visits, List.length_singleton, List.length_cons]
  · intro positions hlinked
    have hstep := h.isLinked _ (.next hread hnext hlinked)
    unfold advance
    rwa [List.reverse_cons, List.append_assoc, List.singleton_append]

/-- **A walk never comes to a directory twice**, however the directories point to each
other. -/
theorem isOrderly_of_reaches (h : ReflTransGen (GoesOn file visit) (start first) w) :
    w.IsOrderly file first := by
  induction h with
  | refl => exact isOrderly_start file first
  | tail _ hround ih => exact ih.goesOn hround

/-- A walk has visited no more directories than there are bytes. -/
theorem IsOrderly.length_visits_le (h : w.IsOrderly file first) :
    w.visits.length ≤ file.source.bytes.size := by
  rw [h.length_visits]
  exact Chain.length_le_of_nodup (List.nodup_cons.mp h.nodup).2 h.lt_size

/-- **No walk goes on for ever**: after as many rounds as there are bytes it has been
everywhere. -/
theorem not_endless (file : Container) (visit : Loading → Directory → Except DecodeError α)
    (first : Nat) :
    ¬ ∃ walks : ℕ → Walk α, walks 0 = start first
      ∧ ∀ n, GoesOn file visit (walks n) (walks (n + 1)) := by
  rintro ⟨walks, hstart, hrounds⟩
  have hreaches : ∀ n, ReflTransGen (GoesOn file visit) (start first) (walks n)
      ∧ (walks n).visits.length = n := by
    intro n
    induction n with
    | zero =>
      rw [hstart]
      exact ⟨.refl, rfl⟩
    | succ n ih =>
      refine ⟨ih.1.tail (hrounds n), ?_⟩
      obtain ⟨a, next, -, -, hadvance⟩ := hrounds n
      rw [hadvance]
      unfold advance
      rw [List.length_append, ih.2, List.length_singleton]
  obtain ⟨hreach, hlength⟩ := hreaches (file.source.bytes.size + 1)
  have hle := (isOrderly_of_reaches hreach).length_visits_le
  omega

/-! ### Where a walk ends -/

/-- A chain with what a walk has visited in front of it. -/
def continued (w : Walk α) (chain : Chain α) : Chain α :=
  { chain with visits := w.visits ++ chain.visits }

theorem stops_of_error {e : DecodeError} (h : w.round file visit = .error e) :
    Stops file visit w (w.continued { visits := [], fault := some e }) := by
  have hstops := Stops.failed h
  unfold continued
  rwa [List.append_nil]

/-- **Following a chain is what the loop does**, wherever it stands. -/
theorem exists_stops_followFrom (loading : Loading) {visited : List Nat} {position : Nat}
    (hnew : position ∉ visited) (w : Walk α) (hbehind : w.behind = visited)
    (hposition : w.position = position) (hloading : w.loading = loading) :
    ∃ w', ReflTransGen (GoesOn file visit) w w'
      ∧ Stops file visit w'
        (w.continued (Chain.followFrom file visit loading visited position hnew)) := by
  fun_induction Chain.followFrom file visit loading visited position hnew generalizing w with
  | case1 loading visited position hnew e hread =>
    refine ⟨w, .refl, stops_of_error ?_⟩
    unfold round
    rw [hposition, hread]
    rfl
  | case2 loading visited position hnew d hread _ hnext e hvisit =>
    subst hbehind hposition hloading
    refine ⟨w, .refl, stops_of_error ?_⟩
    rw [round_of_read hread, if_neg (fun h => h.1 hnext), hvisit]
    rfl
  | case3 loading visited position hnew d hread _ hnext a hvisit =>
    subst hbehind hposition hloading
    refine ⟨w, .refl, .ended ?_⟩
    rw [round_of_read hread, if_neg (fun h => h.1 hnext), hvisit, hnext]
    rfl
  | case4 loading visited position hnew d hread _ hnext hcycle =>
    subst hbehind hposition hloading
    refine ⟨w, .refl, stops_of_error ?_⟩
    rw [round_of_read hread, if_pos ⟨hnext, hcycle⟩]
  | case5 loading visited position hnew d hread _ hnext hcycle e hvisit =>
    subst hbehind hposition hloading
    refine ⟨w, .refl, stops_of_error ?_⟩
    rw [round_of_read hread, if_neg (fun h => hcycle h.2), hvisit]
    rfl
  | case6 loading visited position hnew d hread _ hnext hcycle a hvisit ih =>
    subst hbehind hposition hloading
    have hround : w.round file visit = .ok (a, d.next) := by
      rw [round_of_read hread, if_neg (fun h => hcycle h.2), hvisit]
      rfl
    -- the visits of the rest stand behind the one of this round
    obtain ⟨w', hreach, hstops⟩ := ih (w.advance a d.next) rfl rfl rfl
    refine ⟨w', hreach.head ⟨a, d.next, hround, hnext, rfl⟩, ?_⟩
    have hvisits : (w.advance a d.next).continued
        (Chain.followFrom file visit .unlimited (w.position :: w.behind) d.next hcycle)
        = w.continued (Chain.cons a
          (Chain.followFrom file visit .unlimited (w.position :: w.behind) d.next hcycle)) := by
      unfold continued advance Chain.cons
      dsimp only
      rw [List.append_assoc, List.singleton_append]
    rwa [← hvisits]

/-- **A walk along the directories of a file stops with the chain of them.** -/
theorem exists_stops_follow (file : Container)
    (visit : Loading → Directory → Except DecodeError α) (first : Nat) :
    ∃ w, ReflTransGen (GoesOn file visit) (start first) w
      ∧ Stops file visit w (Chain.follow file visit first) :=
  exists_stops_followFrom .limited (by simp) (start first) rfl rfl rfl

/-- **A walk that succeeds has visited all directories of a chain**, each of them once. -/
theorem exists_isLinked_of_stops {chain : Chain α}
    (hreach : ReflTransGen (GoesOn file visit) (start first) w) (h : Stops file visit w chain)
    (hfault : chain.fault = none) :
    ∃ positions, IsLinked file (first :: positions) ∧ (first :: positions).Nodup
      ∧ (∀ p ∈ first :: positions, p < file.source.bytes.size)
      ∧ chain.visits.length = (first :: positions).length := by
  have horderly := isOrderly_of_reaches hreach
  cases h with
  | failed => cases hfault
  | @ended a hround =>
    obtain ⟨d, hread, -, hnext, -⟩ := round_eq_ok hround
    -- the directories in their order are those behind the walk, turned round
    have hlinked := horderly.isLinked [] (.last hread hnext)
    rw [← List.reverse_cons] at hlinked
    have hhead := horderly.getLast?_eq
    rw [← List.head?_reverse] at hhead
    obtain ⟨positions, hpositions⟩ := List.head?_eq_some_iff.mp hhead
    have hlength : (w.position :: w.behind).length = (first :: positions).length := by
      rw [← hpositions, List.length_reverse]
    have hlt : ∀ p ∈ w.position :: w.behind, p < file.source.bytes.size :=
      List.forall_mem_cons.mpr ⟨Directory.lt_size_of_read hread, horderly.lt_size⟩
    refine ⟨positions, hpositions ▸ hlinked, ?_, ?_, ?_⟩
    · rw [← hpositions]
      exact List.nodup_reverse.mpr horderly.nodup
    · rw [← hpositions]
      exact fun p hp => hlt p (List.mem_reverse.mp hp)
    · rw [← hlength, List.length_append, horderly.length_visits, List.length_singleton,
        List.length_cons]

/-- However a walk stops, it has visited no more directories than there are bytes. -/
theorem length_visits_le_of_stops {chain : Chain α}
    (hreach : ReflTransGen (GoesOn file visit) (start first) w) (h : Stops file visit w chain) :
    chain.visits.length ≤ file.source.bytes.size := by
  cases hfault : chain.fault with
  | none =>
    obtain ⟨positions, -, hnodup, hlt, hlength⟩ := exists_isLinked_of_stops hreach h hfault
    rw [hlength]
    exact Chain.length_le_of_nodup hnodup hlt
  | some e =>
    cases h with
    | failed => exact (isOrderly_of_reaches hreach).length_visits_le
    | ended => cases hfault

end Walk

end BlockExtent.Tiff
