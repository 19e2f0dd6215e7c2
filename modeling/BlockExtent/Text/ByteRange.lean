/-!
# Parts of a text by bytes

Positions in a text are counted in bytes of its UTF-8 form.  A position inside a
character is none.

## Main definitions

* `byteLength` — the number of bytes of a text.
* `dropBytes`, `takeBytes` — the text after and before a position.
* `byteRange?` — the text between two positions.

## Main results

* `byteRange?_eq_some_iff` — **what a range of bytes is.**
-/

namespace BlockExtent

/-- The number of bytes of a text. -/
def byteLength (text : List Char) : Nat :=
  text.foldl (fun length c => length + c.utf8Size) 0

/-- The characters after the first `n` bytes, if a character ends there. -/
def dropBytes : (n : Nat) → List Char → Option (List Char)
  | 0, cs => some cs
  | _ + 1, [] => none
  | n + 1, c :: cs => if c.utf8Size ≤ n + 1 then dropBytes (n + 1 - c.utf8Size) cs else none

/-- The characters of the first `n` bytes, if a character ends there. -/
def takeBytes : (n : Nat) → List Char → Option (List Char)
  | 0, _ => some []
  | _ + 1, [] => none
  | n + 1, c :: cs =>
    if c.utf8Size ≤ n + 1 then (takeBytes (n + 1 - c.utf8Size) cs).map (c :: ·) else none

/-- The `length` bytes from position `start` on, if both ends are between
characters. -/
def byteRange? (start length : Nat) (text : List Char) : Option (List Char) :=
  (dropBytes start text).bind (takeBytes length)

/-! ### What the positions mean -/

theorem utf8ByteSize_ofList_cons (c : Char) (cs : List Char) :
    (String.ofList (c :: cs)).utf8ByteSize = c.utf8Size + (String.ofList cs).utf8ByteSize := by
  rw [String.ofList_cons, String.utf8ByteSize_append, String.utf8ByteSize_singleton]

/-- Only the empty text has no bytes. -/
theorem utf8ByteSize_ofList_eq_zero {cs : List Char} :
    (String.ofList cs).utf8ByteSize = 0 ↔ cs = [] := by
  cases cs with
  | nil => exact ⟨fun _ => rfl, fun _ => rfl⟩
  | cons c cs =>
    have hpos := c.utf8Size_pos
    rw [utf8ByteSize_ofList_cons]
    exact ⟨fun h => by omega, nofun⟩

/-- A text that has bytes has a first character. -/
theorem exists_cons_of_utf8ByteSize {before rest cs : List Char} {c : Char} {n : Nat}
    (hsplit : c :: cs = before ++ rest) (hsize : (String.ofList before).utf8ByteSize = n + 1) :
    ∃ before', before = c :: before' ∧ cs = before' ++ rest
      ∧ c.utf8Size + (String.ofList before').utf8ByteSize = n + 1 := by
  cases before with
  | nil => cases hsize
  | cons c' before' =>
    obtain ⟨rfl, rfl⟩ := List.cons.inj hsplit
    exact ⟨before', rfl, rfl, by rw [← utf8ByteSize_ofList_cons, hsize]⟩

/-- **What is behind a position**, in front of which there is a text of so many bytes. -/
theorem dropBytes_eq_some_iff {n : Nat} {cs rest : List Char} :
    dropBytes n cs = some rest ↔
      ∃ before, cs = before ++ rest ∧ (String.ofList before).utf8ByteSize = n := by
  induction n, cs using dropBytes.induct with
  | case1 cs =>
    constructor
    · intro h
      rw [dropBytes] at h
      cases h
      exact ⟨[], rfl, rfl⟩
    · rintro ⟨before, rfl, hsize⟩
      rw [utf8ByteSize_ofList_eq_zero.mp hsize, dropBytes, List.nil_append]
  | case2 n =>
    constructor
    · nofun
    · rintro ⟨before, hsplit, hsize⟩
      rw [(List.append_eq_nil_iff.mp hsplit.symm).1] at hsize
      cases hsize
  | case3 n c cs hle ih =>
    rw [dropBytes, if_pos hle, ih]
    constructor
    · rintro ⟨before, rfl, hsize⟩
      refine ⟨c :: before, rfl, ?_⟩
      rw [utf8ByteSize_ofList_cons, hsize, Nat.add_sub_cancel' hle]
    · rintro ⟨before, hsplit, hsize⟩
      obtain ⟨before', -, hrest, hsize'⟩ := exists_cons_of_utf8ByteSize hsplit hsize
      exact ⟨before', hrest, by omega⟩
  | case4 n c cs hlt =>
    rw [dropBytes, if_neg hlt]
    constructor
    · rintro ⟨⟩
    · rintro ⟨before, hsplit, hsize⟩
      obtain ⟨before', -, -, hsize'⟩ := exists_cons_of_utf8ByteSize hsplit hsize
      omega

/-- What is in front of a position is a text of so many bytes. -/
theorem takeBytes_eq_some_iff {n : Nat} {cs range : List Char} :
    takeBytes n cs = some range ↔
      ∃ after, cs = range ++ after ∧ (String.ofList range).utf8ByteSize = n := by
  induction n, cs using takeBytes.induct generalizing range with
  | case1 cs =>
    constructor
    · intro h
      rw [takeBytes] at h
      cases h
      exact ⟨cs, rfl, rfl⟩
    · rintro ⟨after, -, hsize⟩
      rw [utf8ByteSize_ofList_eq_zero.mp hsize, takeBytes]
  | case2 n =>
    constructor
    · nofun
    · rintro ⟨after, hsplit, hsize⟩
      rw [(List.append_eq_nil_iff.mp hsplit.symm).1] at hsize
      cases hsize
  | case3 n c cs hle ih =>
    rw [takeBytes, if_pos hle, Option.map_eq_some_iff]
    constructor
    · rintro ⟨range', hrange, rfl⟩
      obtain ⟨after, rfl, hsize⟩ := ih.mp hrange
      refine ⟨after, rfl, ?_⟩
      rw [utf8ByteSize_ofList_cons, hsize, Nat.add_sub_cancel' hle]
    · rintro ⟨after, hsplit, hsize⟩
      obtain ⟨range', rfl, hrest, hsize'⟩ := exists_cons_of_utf8ByteSize hsplit hsize
      exact ⟨range', ih.mpr ⟨after, hrest, by omega⟩, rfl⟩
  | case4 n c cs hlt =>
    rw [takeBytes, if_neg hlt]
    constructor
    · rintro ⟨⟩
    · rintro ⟨after, hsplit, hsize⟩
      obtain ⟨range', -, -, hsize'⟩ := exists_cons_of_utf8ByteSize hsplit hsize
      omega

/-- **A range of bytes** is a part of the text with so many bytes in front of it, and so many of
its own. -/
theorem byteRange?_eq_some_iff {start length : Nat} {text range : List Char} :
    byteRange? start length text = some range ↔
      ∃ before after, text = before ++ range ++ after
        ∧ (String.ofList before).utf8ByteSize = start
        ∧ (String.ofList range).utf8ByteSize = length := by
  unfold byteRange?
  simp only [Option.bind_eq_some_iff, dropBytes_eq_some_iff, takeBytes_eq_some_iff]
  constructor
  · rintro ⟨rest, ⟨before, rfl, hstart⟩, after, rfl, hlength⟩
    exact ⟨before, after, (List.append_assoc _ _ _).symm, hstart, hlength⟩
  · rintro ⟨before, after, rfl, hstart, hlength⟩
    exact ⟨range ++ after, ⟨before, List.append_assoc _ _ _, hstart⟩, after, rfl, hlength⟩

end BlockExtent
