/-!
# Splitting at the last occurrence

## Main definitions

* `splitLast` — what stands before and after the last occurrence of an element.
-/

namespace BlockExtent

variable {α : Type} [BEq α]

/-- What stands before and after the last occurrence of `a`, if there is one. -/
def splitLast (a : α) : List α → Option (List α × List α)
  | [] => none
  | x :: xs =>
    match splitLast a xs with
    | some (before, after) => some (x :: before, after)
    | none => if x == a then some ([], xs) else none

theorem splitLast_eq_none [LawfulBEq α] {a : α} {xs : List α} :
    splitLast a xs = none ↔ a ∉ xs := by
  induction xs with
  | nil => simp [splitLast]
  | cons x xs ih =>
    cases h : splitLast a xs with
    | none =>
      have hx := ih.mp h
      by_cases hxa : x = a
      · simp [splitLast, h, hxa]
      · simp [splitLast, h, hxa, hx, Ne.symm hxa]
    | some split =>
      have hx : ¬ a ∉ xs := fun hn => by simp [ih.mpr hn] at h
      simp_all [splitLast]

theorem eq_of_splitLast [LawfulBEq α] {a : α} {xs before after : List α}
    (h : splitLast a xs = some (before, after)) :
    xs = before ++ a :: after ∧ a ∉ after := by
  induction xs generalizing before after with
  | nil => simp [splitLast] at h
  | cons x xs ih =>
    cases hs : splitLast a xs with
    | none =>
      have hx := splitLast_eq_none.mp hs
      by_cases hxa : x = a
      · simp_all [splitLast]
      · simp [splitLast, hs, hxa] at h
    | some split =>
      simp only [splitLast, hs, Option.some.injEq, Prod.mk.injEq] at h
      obtain ⟨rfl, rfl⟩ := h
      obtain ⟨hxs, ha⟩ := ih hs
      exact ⟨by rw [hxs, List.cons_append], ha⟩

theorem splitLast_append_cons [LawfulBEq α] {a : α} {after : List α} (h : a ∉ after)
    (before : List α) : splitLast a (before ++ a :: after) = some (before, after) := by
  induction before with
  | nil =>
    rw [List.nil_append, splitLast, splitLast_eq_none.mpr h]
    simp only [BEq.rfl, if_true]
  | cons x before ih =>
    rw [List.cons_append, splitLast, ih]

end BlockExtent
