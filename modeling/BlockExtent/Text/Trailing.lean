/-!
# Dropping what stands at the end

## Main definitions

* `dropTrailing` — a list without the elements at its end that satisfy a
  condition.

## Main results

* `dropTrailing_eq_iff` — **what is left of a list.**
-/

namespace BlockExtent

variable {α : Type}

/-- A list without the elements at its end that satisfy `p`. -/
def dropTrailing (p : α → Bool) (xs : List α) : List α :=
  (xs.reverse.dropWhile p).reverse

@[simp] theorem dropTrailing_nil (p : α → Bool) : dropTrailing p [] = [] := rfl

/-- What is dropped satisfies the condition. -/
theorem exists_dropTrailing_append (p : α → Bool) (xs : List α) :
    ∃ ys, xs = dropTrailing p xs ++ ys ∧ ∀ y ∈ ys, p y = true := by
  refine ⟨(xs.reverse.takeWhile p).reverse, ?_, fun y hy => ?_⟩
  · rw [dropTrailing, ← List.reverse_append, List.takeWhile_append_dropWhile,
      List.reverse_reverse]
  · exact List.all_eq_true.mp List.all_takeWhile y (List.mem_reverse.mp hy)

section

variable (p : α → Bool)

theorem dropTrailing_append (xs ys : List α) :
    dropTrailing p (xs ++ ys)
      = if dropTrailing p ys = [] then dropTrailing p xs else xs ++ dropTrailing p ys := by
  unfold dropTrailing
  rw [List.reverse_append, List.dropWhile_append]
  by_cases hnil : ys.reverse.dropWhile p = []
  · rw [hnil, if_pos List.isEmpty_nil, if_pos List.reverse_nil]
  · have hempty : ¬ (ys.reverse.dropWhile p).isEmpty = true := by simpa using hnil
    rw [if_neg hempty, if_neg (by simpa using hnil), List.reverse_append, List.reverse_reverse]

theorem dropTrailing_singleton {a : α} (h : p a = false) : dropTrailing p [a] = [a] := by
  simp [dropTrailing, h]

/-- Nothing is dropped behind an element that is kept. -/
theorem dropTrailing_cons_of_neg {a : α} (h : p a = false) (ys : List α) :
    dropTrailing p (a :: ys) = a :: dropTrailing p ys := by
  rw [← List.singleton_append, dropTrailing_append, dropTrailing_singleton p h]
  split
  · rename_i hnil
    rw [hnil]
  · rfl

theorem dropTrailing_eq_self {xs : List α} (h : ∀ a ∈ xs.getLast?, p a = false) :
    dropTrailing p xs = xs := by
  rcases List.eq_nil_or_concat xs with rfl | ⟨front, a, rfl⟩
  · rfl
  · have ha : p a = false := h a (by simp)
    rw [List.concat_eq_append, dropTrailing_append, dropTrailing_singleton p ha,
      if_neg (List.cons_ne_nil _ _)]

end

/-- **What is left when something is dropped at the end**: it does not end in what is dropped. -/
theorem dropTrailing_eq_iff {p : α → Bool} {xs ys : List α} :
    dropTrailing p xs = ys ↔
      ∃ dropped, xs = ys ++ dropped ∧ (∀ a ∈ dropped, p a = true)
        ∧ ∀ a ∈ ys.getLast?, p a = false := by
  constructor
  · rintro rfl
    obtain ⟨dropped, hsplit, hdropped⟩ := exists_dropTrailing_append p xs
    refine ⟨dropped, hsplit, hdropped, fun a ha => ?_⟩
    have hhead := List.head?_dropWhile_not p xs.reverse
    rw [dropTrailing, List.getLast?_reverse, Option.mem_def] at ha
    rw [ha] at hhead
    exact hhead
  · rintro ⟨dropped, rfl, hdropped, hlast⟩
    have hnil : dropTrailing p dropped = [] := by
      rw [dropTrailing, List.reverse_eq_nil_iff, ← List.append_nil dropped.reverse,
        List.dropWhile_append_of_pos fun a ha => hdropped a (List.mem_reverse.mp ha)]
      rfl
    rw [dropTrailing_append, if_pos hnil, dropTrailing_eq_self p hlast]

end BlockExtent
