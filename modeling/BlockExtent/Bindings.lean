/-!
# Lists of bindings

A list of pairs stands for a finite map, of which the first pair with a key
counts.  `List.lookup` reads it.

## Main definitions

* `putBinding` — the list with a key bound anew.
-/

namespace BlockExtent

variable {κ υ : Type} [BEq κ]

/-- The list with `key` bound to `value`, in the place where it was bound
before. -/
def putBinding (key : κ) (value : υ) : List (κ × υ) → List (κ × υ)
  | [] => [(key, value)]
  | entry :: rest =>
    if entry.1 == key then (key, value) :: rest else entry :: putBinding key value rest

theorem lookup_putBinding [LawfulBEq κ] (key other : κ) (value : υ)
    (entries : List (κ × υ)) :
    (putBinding key value entries).lookup other =
      if other == key then some value else entries.lookup other := by
  induction entries with
  | nil => cases h : other == key <;> simp [putBinding, List.lookup_cons, h]
  | cons entry rest ih =>
    obtain ⟨k, v⟩ := entry
    by_cases hk : k = key
    · subst hk
      cases h : other == k <;> simp [putBinding, List.lookup_cons, h]
    · by_cases h : other = k
      · subst h
        simp [putBinding, hk]
      · simp [putBinding, List.lookup_cons, hk, beq_eq_false_iff_ne.mpr h, ih]

/-- Of two values that a key is bound to, the second one stays. -/
theorem putBinding_putBinding [LawfulBEq κ] (key : κ) (value value' : υ)
    (entries : List (κ × υ)) :
    putBinding key value' (putBinding key value entries) = putBinding key value' entries := by
  induction entries with
  | nil => simp [putBinding]
  | cons entry rest ih =>
    by_cases hk : entry.1 = key
    · simp [putBinding, hk]
    · simp [putBinding, hk, ih]

theorem mem_map_fst_putBinding [LawfulBEq κ] {key other : κ} {value : υ}
    {entries : List (κ × υ)} :
    other ∈ (putBinding key value entries).map Prod.fst
      ↔ other = key ∨ other ∈ entries.map Prod.fst := by
  induction entries with
  | nil => simp [putBinding]
  | cons entry rest ih =>
    by_cases hk : entry.1 = key
    · simp [putBinding, hk]
    · rw [putBinding, if_neg (by simpa using hk), List.map_cons, List.map_cons, List.mem_cons,
        List.mem_cons, ih]
      exact or_left_comm

/-- Keys that are bound once stay so. -/
theorem nodup_putBinding [LawfulBEq κ] (key : κ) (value : υ) {entries : List (κ × υ)}
    (h : (entries.map Prod.fst).Nodup) : ((putBinding key value entries).map Prod.fst).Nodup := by
  induction entries with
  | nil => simp [putBinding]
  | cons entry rest ih =>
    obtain ⟨hnotMem, hrest⟩ := List.nodup_cons.mp h
    by_cases hk : entry.1 = key
    · rw [putBinding, if_pos (by simpa using hk)]
      exact List.nodup_cons.mpr ⟨hk ▸ hnotMem, hrest⟩
    · rw [putBinding, if_neg (by simpa using hk)]
      refine List.nodup_cons.mpr ⟨fun hmem => ?_, ih hrest⟩
      rcases mem_map_fst_putBinding.mp hmem with heq | hmem
      · exact hk heq
      · exact hnotMem hmem

/-- A key that is bound once is bound to the value that stands beside it. -/
theorem lookup_eq_some_iff_mem [LawfulBEq κ] {key : κ} {value : υ} {entries : List (κ × υ)}
    (h : (entries.map Prod.fst).Nodup) :
    entries.lookup key = some value ↔ (key, value) ∈ entries := by
  induction entries with
  | nil => simp
  | cons entry rest ih =>
    obtain ⟨key', value'⟩ := entry
    obtain ⟨hnotMem, hrest⟩ := List.nodup_cons.mp h
    rw [List.lookup_cons, List.mem_cons, Prod.mk.injEq]
    by_cases hk : key = key'
    · subst hk
      have hother : (key, value) ∉ rest := fun hmem => hnotMem (List.mem_map.mpr ⟨_, hmem, rfl⟩)
      simp [hother, eq_comm]
    · simp [beq_eq_false_iff_ne.mpr hk, hk, ih hrest]

end BlockExtent
