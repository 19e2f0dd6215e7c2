import BlockExtent.Access.BuiltIn

/-!
# The last name of a path

The last name of a path is the last piece that is not `.`, unless that piece is `..`.  So it does
not depend on the directory in front of it, and since neither a slash nor a dot is a letter, the
name in lower case is that of the path in lower case.

## Main results

* `Path.fileName?_eq` — the last name, by the pieces of the path.
* `Path.fileName?_append` — **a directory in front does not change the last name.**
* `Path.map_lowerCase_fileName?` — **the case of a path matters to the case of the name only.**
* `exists_splitLast_of_toLower` — what follows the last dot, in lower case.
-/

namespace BlockExtent

open Access

/-! ### Lower case -/

/-- What is no letter in lower case is what it was. -/
theorem eq_of_toLower {c d : Char} (hd : d.isLower = false) (h : c.toLower = d) : c = d := by
  unfold Char.toLower at h
  split at h
  · rename_i hupper
    -- a capital letter comes out as a small one
    have hsmall : ¬ ('a'.val.toNat ≤ d.val.toNat ∧ d.val.toNat ≤ 'z'.val.toNat) := by
      rintro ⟨hlow, hhigh⟩
      change (decide _ && decide _) = false at hd
      rw [Bool.and_eq_false_iff, decide_eq_false_iff_not, decide_eq_false_iff_not] at hd
      exact hd.elim (fun h => h (UInt32.le_iff_toNat_le.mpr hlow))
        fun h => h (UInt32.le_iff_toNat_le.mpr hhigh)
    simp only [UInt32.le_iff_toNat_le, ge_iff_le] at hupper
    have hval := congrArg (fun c : Char => c.val.toNat) h
    simp only [UInt32.toNat_add] at hval
    have hfirst : 'A'.val.toNat = 65 ∧ 'a'.val.toNat = 97 := ⟨rfl, rfl⟩
    have hlast : 'Z'.val.toNat = 90 ∧ 'z'.val.toNat = 122 := ⟨rfl, rfl⟩
    have hshift : ('a'.val - 'A'.val).toNat = 32 := rfl
    omega
  · exact h

/-- A text of dots is one in lower case. -/
theorem map_toLower_eq_dots {l : List Char} {n : Nat} :
    l.map Char.toLower = List.replicate n '.' ↔ l = List.replicate n '.' := by
  constructor
  · intro h
    rw [List.eq_replicate_iff] at h ⊢
    obtain ⟨hlength, hdots⟩ := h
    refine ⟨by rwa [List.length_map] at hlength, fun c hc => ?_⟩
    exact eq_of_toLower (by decide) (hdots _ (List.mem_map_of_mem hc))
  · rintro rfl
    rw [List.map_replicate]
    rfl

/-- Splitting does not depend on what happens to the other elements. -/
theorem splitOn_map {f : Char → Char} {sep : Char} (hf : ∀ c, f c = sep ↔ c = sep)
    (l : List Char) : (l.map f).splitOn sep = (l.splitOn sep).map (List.map f) := by
  induction l with
  | nil => rfl
  | cons c l ih =>
    rw [List.map_cons, List.splitOn_cons_eq_if_modifyHead, List.splitOn_cons_eq_if_modifyHead, ih]
    simp only [beq_iff_eq, hf]
    split
    · rfl
    · cases l.splitOn sep <;> rfl

/-- What follows the last dot of a name in lower case is what follows that of the name. -/
theorem exists_splitLast_of_toLower {name stem extension : List Char}
    (h : splitLast '.' (name.map Char.toLower) = some (stem, extension)) :
    ∃ front after, splitLast '.' name = some (front, after)
      ∧ after.map Char.toLower = extension := by
  obtain ⟨hname, hextension⟩ := eq_of_splitLast h
  obtain ⟨front, rest, rfl, -, hrest⟩ := List.map_eq_append_iff.mp hname
  obtain ⟨c, after, rfl, hdot, hafter⟩ := List.map_eq_cons_iff.mp hrest
  obtain rfl := eq_of_toLower (by decide) hdot
  refine ⟨front, after, splitLast_append_cons (fun hmem => hextension ?_) front, hafter⟩
  rw [← hafter]
  exact List.mem_map_of_mem (f := Char.toLower) hmem

namespace Path

/-! ### The pieces of a path -/

/-- A directory in front of a path comes with its own pieces. -/
theorem pieces_append (directory path : String) :
    pieces (directory ++ "/" ++ path) = pieces directory ++ pieces path := by
  have hlist : (directory ++ "/" ++ path).toList = directory.toList ++ '/' :: path.toList := by
    rw [String.toList_append, String.toList_append, List.append_assoc]
    rfl
  unfold pieces
  rw [hlist, List.splitOn_append_cons_self, List.filter_append, List.map_append]

/-- The pieces of a path in lower case are those of the path. -/
theorem map_lowerCase_pieces (path : String) :
    (pieces path).map lowerCase = ((lowerCase path).splitOn '/').filter (· ≠ []) := by
  have hslash : ∀ c : Char, c.toLower = '/' ↔ c = '/' := fun c =>
    ⟨eq_of_toLower (by decide), by rintro rfl; decide⟩
  unfold pieces
  rw [lowerCase, splitOn_map hslash, List.filter_map, List.map_map]
  have hempty : ((fun piece : List Char => decide (piece ≠ [])) ∘ List.map Char.toLower)
      = fun piece => decide (piece ≠ []) := by
    funext piece
    simp
  rw [hempty]
  refine List.map_congr_left fun piece _ => ?_
  simp only [Function.comp_apply, lowerCase, String.toList_ofList]

/-! ### The last name -/

/-- The last name is the last piece but for those that are `.`. -/
theorem fileName?_eq (path : String) :
    fileName? path
      = ((pieces path).filter (· ≠ ".")).getLast?.filter (· ≠ "..") := by
  unfold fileName? components
  cases pieces path with
  | nil => rfl
  | cons first rest =>
    have hfilter : (first :: rest).filter (· ≠ ".")
        = (if first ≠ "." then [first] else []) ++ rest.filter (· ≠ ".") := by
      rw [List.filter_cons]
      by_cases hfirst : first = "." <;> simp [hfirst]
    dsimp only
    rw [hfilter, List.getLast?_append, List.getLast?_append]
    cases hlast : (rest.filter (· ≠ ".")).getLast? with
    | some last =>
      have hdot : last ≠ "." := by simpa using (List.mem_filter.mp (List.mem_of_getLast? hlast)).2
      simp [Option.filter, hdot]
    | none =>
      -- a `.` in front is the last piece at most if there is no name
      by_cases hfirst : first = "."
      · by_cases habsolute : isAbsolute path = false <;> simp [hfirst, habsolute]
      · simp [Option.filter, hfirst]

/-- **A directory in front does not change the last name.** -/
theorem fileName?_append {path name : String} (h : fileName? path = some name)
    (directory : String) : fileName? (directory ++ "/" ++ path) = some name := by
  rw [fileName?_eq] at h ⊢
  obtain ⟨hlast, hname⟩ := Option.filter_eq_some_iff.mp h
  rw [pieces_append, List.filter_append, List.getLast?_append, hlast, Option.some_or]
  exact Option.filter_eq_some_iff.mpr ⟨rfl, hname⟩

/-- **The case of a path matters to the case of its last name only.** -/
theorem map_lowerCase_fileName? {path other : String} (h : lowerCase path = lowerCase other) :
    (fileName? path).map lowerCase = (fileName? other).map lowerCase := by
  have hpieces : (pieces path).map lowerCase = (pieces other).map lowerCase := by
    rw [map_lowerCase_pieces, map_lowerCase_pieces, h]
  have hdots : ∀ (name : String) (n : Nat),
      lowerCase name = List.replicate n '.' ↔ name = String.ofList (List.replicate n '.') := by
    intro name n
    rw [lowerCase, map_toLower_eq_dots, ← String.toList_inj, String.toList_ofList]
  -- both conditions on the name are about its lower case
  have hfilter : ∀ path, (fileName? path).map lowerCase
      = (((pieces path).map lowerCase).filter (· ≠ ['.'])).getLast?.filter (· ≠ ['.', '.']) := by
    intro path
    have hone : ((fun name : List Char => decide (name ≠ ['.'])) ∘ lowerCase)
        = fun name : String => decide (name ≠ ".") := by
      funext name
      exact decide_eq_decide.mpr (not_congr (hdots name 1))
    have htwo : ((fun name : List Char => decide (name ≠ ['.', '.'])) ∘ lowerCase)
        = fun name : String => decide (name ≠ "..") := by
      funext name
      exact decide_eq_decide.mpr (not_congr (hdots name 2))
    rw [fileName?_eq, List.filter_map, hone, List.getLast?_map, Option.filter_map, htwo]
  rw [hfilter, hfilter, hpieces]

end Path

end BlockExtent
