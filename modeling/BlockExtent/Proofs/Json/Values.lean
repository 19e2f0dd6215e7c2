import BlockExtent.Proofs.Json.Strings
import BlockExtent.Proofs.Number.Literal
import Mathlib.Data.List.Forall2

/-!
# Values read back

A text that is read as a value, whatever follows it, can be put into an array or an
object, with blanks between the parts.  So what the parser makes of a text follows
the way the text was put together.

## Main definitions

* `Json.Reads` — a text is read as a value.
* `Json.ReadsMember` — a text is read as a member of an object.
* `Json.written` — what is left of a value in its text.

## Main results

* `Json.reads_numberText`, `Json.reads_stringText` — numbers and strings.
* `Json.Reads.array`, `Json.Reads.object` — arrays and objects.
* `Json.reads_text` — the text of a value is read as the value.
* `Json.Reads.parse?_append` — a text is parsed as the value.
-/

namespace BlockExtent.Json

/-! ### Gaps -/

/-- Blanks between the parts of a text. -/
def IsGap (gap : List Char) : Prop := ∀ c ∈ gap, isGap c = true

theorem skipGap_append {gap : List Char} (h : IsGap gap) (text : List Char) :
    skipGap (gap ++ text) = skipGap text :=
  List.dropWhile_append_of_pos h

theorem skipGap_of_head {c : Char} (h : isGap c = false) (text : List Char) :
    skipGap (c :: text) = c :: text := by
  unfold skipGap
  rw [List.dropWhile_cons, h]
  rfl

theorem skipGap_skipGap (text : List Char) : skipGap (skipGap text) = skipGap text := by
  induction text with
  | nil => rfl
  | cons c text ih =>
    cases hc : isGap c with
    | false => rw [skipGap_of_head hc, skipGap_of_head hc]
    | true =>
      have hstep : skipGap (c :: text) = skipGap text := by
        unfold skipGap
        rw [List.dropWhile_cons, hc]
        rfl
      rw [hstep, ih]

/-- Blanks end a number, and so does what ends a number on its own. -/
theorem stopsNumber_gap {gap rest : List Char} (h : IsGap gap) (hrest : StopsNumber rest) :
    StopsNumber (gap ++ rest) := by
  cases gap with
  | nil => exact hrest
  | cons c gap =>
    have hc := h c List.mem_cons_self
    rintro _ ⟨⟩
    unfold isGap at hc
    simp only [Bool.or_eq_true, beq_iff_eq] at hc
    rcases hc with ((rfl | rfl) | rfl) | rfl <;> decide

theorem stopsNumber_cons {c : Char} (h : c.isDigit = false ∧ c ≠ '.' ∧ c ≠ 'e' ∧ c ≠ 'E')
    (rest : List Char) : StopsNumber (c :: rest) := by
  rintro _ ⟨⟩
  exact h

/-! ### Reading a value from a text -/

/-- A text is read as a value, whatever follows it that does not prolong a number.
No value is deeper than its text is long. -/
def Reads (text : List Char) (value : Json) : Prop :=
  ∀ depth rest, text.length < depth → StopsNumber rest →
    readValue? depth (text ++ rest) = some (value, rest)

/-- A text is read as a member of an object: a name, a colon and a value. -/
def ReadsMember (text : List Char) (member : String × Json) : Prop :=
  ∃ valueText, text = stringText member.1 ++ ':' :: valueText ∧ Reads valueText member.2

section Unfolding

attribute [local simp] readValue? readItems? readMembers?

theorem readValue?_skipGap (depth : ℕ) (text : List Char) :
    readValue? depth (skipGap text) = readValue? depth text := by
  cases depth with
  | zero => rw [readValue?, readValue?]
  | succ depth => rw [readValue?, readValue?, skipGap_skipGap]

theorem readItems?_skipGap (depth : ℕ) (text : List Char) :
    readItems? depth (skipGap text) = readItems? depth text := by
  cases depth with
  | zero => rw [readItems?, readItems?]
  | succ depth => rw [readItems?, readItems?, readValue?_skipGap]

/-- Blanks in front of a value are skipped. -/
theorem Reads.gap_append {gap text : List Char} {value : Json} (hgap : IsGap gap)
    (h : Reads text value) : Reads (gap ++ text) value := by
  intro depth rest hdepth hrest
  rw [List.length_append] at hdepth
  rw [List.append_assoc, ← readValue?_skipGap, skipGap_append hgap, readValue?_skipGap]
  exact h depth rest (by omega) hrest

/-- No value begins with the end of an array. -/
theorem Reads.skipGap_ne {text rest rest' : List Char} {value : Json} (h : Reads text value)
    (hrest : StopsNumber rest) : skipGap (text ++ rest) ≠ ']' :: rest' := by
  intro heq
  have hread := h (text.length + 1) rest (Nat.lt_succ_self _) hrest
  rw [← readValue?_skipGap, heq, readValue?] at hread
  simp [skipGap, isGap, readNumber?, wholeIsPlain, Literal.read?, Literal.readMagnitude?,
    readDigits?] at hread

theorem reads_null : Reads ['n', 'u', 'l', 'l'] .null := by
  intro depth rest hdepth _
  obtain ⟨depth, rfl⟩ := Nat.exists_eq_succ_of_ne_zero (Nat.ne_zero_of_lt hdepth)
  simp [skipGap, isGap]

theorem reads_bool (b : Bool) : Reads (text (.bool b)) (.bool b) := by
  intro depth rest hdepth _
  obtain ⟨depth, rfl⟩ := Nat.exists_eq_succ_of_ne_zero (Nat.ne_zero_of_lt hdepth)
  cases b <;> simp [text, skipGap, isGap]

end Unfolding

theorem reads_stringText (s : String) : Reads (stringText s) (.string s) := by
  intro depth rest hdepth _
  obtain ⟨depth, rfl⟩ := Nat.exists_eq_succ_of_ne_zero (Nat.ne_zero_of_lt hdepth)
  have hread := readString?_flatMap s.toList rest
  unfold stringText
  rw [List.cons_append, List.append_assoc, List.singleton_append, readValue?,
    skipGap_of_head (by decide)]
  simp only [hread, Option.map_some, String.ofList_toList]

/-! ### Numbers -/

/-- A value that begins with a digit or a sign is a number. -/
private theorem readValue?_of_digit {c : Char} (hc : c.isDigit = true ∨ c = '-') (depth : ℕ)
    (text : List Char) : readValue? (depth + 1) (c :: text) = readNumber? (c :: text) := by
  have hne : ∀ a : Char, a.isDigit = false ∧ a ≠ '-' → c ≠ a := by
    rintro a ⟨hdigit, hsign⟩ rfl
    rcases hc with hc | hc
    · rw [hc] at hdigit
      contradiction
    · exact hsign hc
  have hgap : isGap c = false := by
    unfold isGap
    simp only [Bool.or_eq_false_iff, beq_eq_false_iff_ne]
    exact ⟨⟨⟨hne ' ' (by decide), hne '\t' (by decide)⟩, hne '\n' (by decide)⟩,
      hne '\r' (by decide)⟩
  -- none of the other forms of a value begins like this
  have hn := hne 'n' (by decide)
  have ht := hne 't' (by decide)
  have hf := hne 'f' (by decide)
  have hquote := hne '\"' (by decide)
  have harray := hne '[' (by decide)
  have hobject := hne '\x7b' (by decide)
  rw [readValue?, skipGap_of_head hgap]
  split <;> grind

/-- The digits in front of the point have no needless zeros. -/
private theorem wholeIsPlain_of_denotes {text : List Char} {d : Decimal} (h : Denotes text d)
    (rest : List Char) : wholeIsPlain (text ++ rest) = true := by
  obtain ⟨whole, tail, rfl, hwhole, hzero, a, ha, hdigit⟩ := h.begins
  obtain ⟨c, cs, rfl⟩ := List.exists_cons_of_ne_nil hwhole.ne_nil
  have hc := hwhole.isDigit c List.mem_cons_self
  obtain ⟨tail, rfl⟩ := List.head?_eq_some_iff.mp ha
  by_cases hfirst : c = '0'
  · subst hfirst
    have hnil : cs = [] := by
      have := hzero rfl
      rw [List.length_cons] at this
      exact List.eq_nil_of_length_eq_zero (by omega)
    subst hnil
    simp [wholeIsPlain, hdigit]
  · have hsign : c ≠ '-' := by
      rintro rfl
      contradiction
    rw [List.cons_append, List.cons_append]
    unfold wholeIsPlain
    split <;> grind

/-- **A number is read from its text**: as itself if it is finite, and as `null` if
it is not. -/
theorem reads_numberText (x : Float) :
    Reads (numberText x) (if x.isFinite then .number x else .null) := by
  unfold numberText
  split
  · rename_i negative m e hx
    rw [if_pos ((Binary64.isFinite_iff x).mpr ⟨_, _, _, hx⟩)]
    intro depth rest hdepth hrest
    obtain ⟨depth, rfl⟩ := Nat.exists_eq_succ_of_ne_zero (Nat.ne_zero_of_lt hdepth)
    obtain ⟨l, hread, hnearest⟩ := jsonNumber.read?_text hx hrest
    obtain ⟨magnitude, d, htext, hdenotes, -⟩ :=
      jsonNumber.text_denotes negative (Binary64.eq_ofBits_of_ofFloat hx).1
    have hnumber : readNumber? (jsonNumber.text negative m e ++ rest) = some (.number x, rest) := by
      have hplain : wholeIsPlain (jsonNumber.text negative m e ++ rest) = true := by
        rw [htext]
        cases negative with
        | true => simpa [wholeIsPlain] using wholeIsPlain_of_denotes hdenotes rest
        | false => exact wholeIsPlain_of_denotes hdenotes rest
      unfold readNumber?
      rw [if_pos hplain, hread]
      simp only [Option.map_some, hnearest]
    obtain ⟨whole, tail, hsplit, hwhole, -, -⟩ := hdenotes.begins
    obtain ⟨c, cs, rfl⟩ := List.exists_cons_of_ne_nil hwhole.ne_nil
    rw [← hnumber, htext]
    cases negative with
    | true => exact readValue?_of_digit (Or.inr rfl) _ _
    | false =>
      rw [if_neg Bool.false_ne_true, hsplit]
      exact readValue?_of_digit (Or.inl (hwhole.isDigit c List.mem_cons_self)) _ _
  · rename_i hx
    rw [if_neg]
    · exact reads_null
    · intro hfinite
      obtain ⟨negative, m, e, h⟩ := (Binary64.isFinite_iff x).mp hfinite
      exact hx negative m e h

/-! ### Arrays -/

/-- An item is read up to what follows it, which tells whether there are more. -/
private theorem readItems?_item {text rest : List Char} {item : Json} (hitem : Reads text item)
    (depth : ℕ) (hdepth : text.length < depth) (hrest : StopsNumber rest) :
    readItems? (depth + 1) (text ++ rest) =
      match skipGap rest with
      | ']' :: rest => some ([item], rest)
      | ',' :: rest =>
        (readItems? depth rest).bind fun (items, rest) => some (item :: items, rest)
      | _ => none := by
  rw [readItems?, hitem depth rest hdepth hrest]
  rfl

/-- The items of an array, with commas between them and blanks behind them. -/
private theorem readItems?_commaSeparated {texts : List (List Char)} {items : List Json}
    (h : List.Forall₂ Reads texts items) (hne : texts ≠ []) {gap : List Char} (hgap : IsGap gap)
    (rest : List Char) (depth : ℕ) (hdepth : (commaSeparated texts).length + 1 < depth) :
    readItems? depth (commaSeparated texts ++ (gap ++ ']' :: rest)) = some (items, rest) := by
  induction h generalizing depth with
  | nil => exact absurd rfl hne
  | @cons text item texts items hitem htexts ih =>
    obtain ⟨depth, rfl⟩ := Nat.exists_eq_succ_of_ne_zero (Nat.ne_zero_of_lt hdepth)
    cases htexts with
    | nil =>
      have hclose : StopsNumber (gap ++ ']' :: rest) :=
        stopsNumber_gap hgap (stopsNumber_cons (by decide) rest)
      simp only [commaSeparated] at hdepth ⊢
      rw [readItems?_item hitem depth (by omega) hclose, skipGap_append hgap,
        skipGap_of_head (by decide)]
      rfl
    | @cons text' item' texts items hitem' htexts =>
      -- a comma prolongs no number, so the item ends there
      simp only [commaSeparated, List.length_append, List.length_cons] at hdepth
      rw [commaSeparated, List.append_assoc, List.cons_append,
        readItems?_item hitem depth (by omega) (stopsNumber_cons (by decide) _),
        skipGap_of_head (by decide)]
      · simp only
        rw [ih (by simp) depth (by omega)]
        rfl
      · simp

/-- **An array is read from the texts of its items**, with commas between them and
blanks in front of its end. -/
theorem Reads.array {texts : List (List Char)} {items : List Json}
    (h : List.Forall₂ Reads texts items) {gap : List Char} (hgap : IsGap gap) :
    Reads ('[' :: (commaSeparated texts ++ gap ++ [']'])) (.array items) := by
  intro depth rest hdepth hrest
  obtain ⟨depth, rfl⟩ := Nat.exists_eq_succ_of_ne_zero (Nat.ne_zero_of_lt hdepth)
  rw [List.cons_append, readValue?, skipGap_of_head (by decide), List.append_assoc,
    List.append_assoc, List.singleton_append]
  simp only
  cases h with
  | nil =>
    rw [commaSeparated, List.nil_append, skipGap_append hgap, skipGap_of_head (by decide)]
    rfl
  | @cons text item texts items hitem htexts =>
    -- the first item keeps the array from being taken for an empty one
    have hne : ∀ rest', skipGap (commaSeparated (text :: texts) ++ (gap ++ ']' :: rest))
        ≠ ']' :: rest' := by
      intro rest'
      cases texts with
      | nil =>
        rw [commaSeparated]
        exact hitem.skipGap_ne (stopsNumber_gap hgap (stopsNumber_cons (by decide) rest))
      | cons text' texts =>
        rw [commaSeparated, List.append_assoc]
        · exact hitem.skipGap_ne (stopsNumber_cons (by decide) _)
        · simp
    have hitems := readItems?_commaSeparated (.cons hitem htexts) (by simp) hgap rest
      depth (by simp at hdepth; omega)
    rw [← readItems?_skipGap] at hitems
    split
    · rename_i rest' heq
      exact absurd heq (hne rest')
    · rw [hitems]
      rfl

/-! ### Objects -/

/-- A member is read up to what follows it, which tells whether there are more. -/
private theorem readMembers?_member {text rest : List Char} {member : String × Json}
    (hmember : ReadsMember text member) (depth : ℕ) (hdepth : text.length < depth)
    (hrest : StopsNumber rest) :
    readMembers? (depth + 1) (text ++ rest) =
      match skipGap rest with
      | '\x7d' :: rest => some ([member], rest)
      | ',' :: rest =>
        (readMembers? depth rest).bind fun (members, rest) => some (member :: members, rest)
      | _ => none := by
  obtain ⟨name, value⟩ := member
  obtain ⟨valueText, rfl, hvalue⟩ := hmember
  have hname := readString?_flatMap name.toList (':' :: (valueText ++ rest))
  have hstart : stringText name ++ ':' :: valueText ++ rest
      = '\"' :: (name.toList.flatMap charText ++ '\"' :: ':' :: (valueText ++ rest)) := by
    unfold stringText
    simp
  rw [List.length_append, List.length_cons] at hdepth
  rw [hstart, readMembers?, skipGap_of_head (by decide)]
  simp only [hname, Option.bind_eq_bind, Option.bind_some]
  rw [skipGap_of_head (by decide)]
  simp only
  rw [hvalue depth rest (by omega) hrest, Option.bind_some, String.ofList_toList]
  rfl

/-- The members of an object, with commas between them. -/
private theorem readMembers?_commaSeparated {texts : List (List Char)}
    {members : List (String × Json)} (h : List.Forall₂ ReadsMember texts members)
    (hne : texts ≠ []) (rest : List Char) (depth : ℕ)
    (hdepth : (commaSeparated texts).length + 1 < depth) :
    readMembers? depth (commaSeparated texts ++ '\x7d' :: rest) = some (members, rest) := by
  induction h generalizing depth with
  | nil => exact absurd rfl hne
  | @cons text member texts members hmember htexts ih =>
    obtain ⟨depth, rfl⟩ := Nat.exists_eq_succ_of_ne_zero (Nat.ne_zero_of_lt hdepth)
    cases htexts with
    | nil =>
      simp only [commaSeparated] at hdepth ⊢
      rw [readMembers?_member hmember depth (by omega) (stopsNumber_cons (by decide) _),
        skipGap_of_head (by decide)]
      rfl
    | @cons text' member' texts members hmember' htexts =>
      simp only [commaSeparated, List.length_append, List.length_cons] at hdepth
      rw [commaSeparated, List.append_assoc, List.cons_append,
        readMembers?_member hmember depth (by omega) (stopsNumber_cons (by decide) _),
        skipGap_of_head (by decide)]
      · simp only
        rw [ih (by simp) depth (by omega)]
        rfl
      · simp

/-- **An object is read from the texts of its members**, with commas between
them. -/
theorem Reads.object {texts : List (List Char)} {members : List (String × Json)}
    (h : List.Forall₂ ReadsMember texts members) :
    Reads ('\x7b' :: (commaSeparated texts ++ ['\x7d'])) (.object members) := by
  intro depth rest hdepth hrest
  obtain ⟨depth, rfl⟩ := Nat.exists_eq_succ_of_ne_zero (Nat.ne_zero_of_lt hdepth)
  rw [List.cons_append, readValue?, skipGap_of_head (by decide), List.append_assoc,
    List.singleton_append]
  simp only
  cases h with
  | nil =>
    rw [commaSeparated, List.nil_append, skipGap_of_head (by decide)]
    rfl
  | @cons text member texts members hmember htexts =>
    have hmembers := readMembers?_commaSeparated (.cons hmember htexts) (by simp) rest
      depth (by simp at hdepth; omega)
    -- a name begins with a mark, which is no end of an object
    have hquote : ∃ tail, commaSeparated (text :: texts) ++ '\x7d' :: rest = '\"' :: tail := by
      obtain ⟨value, rfl, -⟩ := hmember
      cases texts <;> simp [commaSeparated, stringText]
    obtain ⟨tail, htail⟩ := hquote
    rw [htail] at hmembers ⊢
    rw [skipGap_of_head (by decide)]
    split
    · rename_i rest' heq
      exact absurd (List.cons.inj heq).1 (by decide)
    · rw [hmembers]
      rfl

/-! ### Values of any depth -/

mutual

/-- What is left of a value in its text: numbers that are not finite are written as
`null`. -/
def written : Json → Json
  | .number x => if x.isFinite then .number x else .null
  | .array items => .array (writtenItems items)
  | .object members => .object (writtenMembers members)
  | .null => .null
  | .bool b => .bool b
  | .string s => .string s

/-- What is left of the items of an array. -/
def writtenItems : List Json → List Json
  | [] => []
  | item :: items => item.written :: writtenItems items

/-- What is left of the members of an object. -/
def writtenMembers : List (String × Json) → List (String × Json)
  | [] => []
  | (name, value) :: members => (name, value.written) :: writtenMembers members

end

mutual

/-- **The text of a value is read as the value**, but for numbers that are not
finite. -/
theorem reads_text : ∀ value : Json, Reads value.text value.written
  | .null => by
    rw [text, written]
    exact reads_null
  | .bool b => by
    rw [written]
    exact reads_bool b
  | .number x => by
    rw [text, written]
    exact reads_numberText x
  | .string s => by
    rw [text, written]
    exact reads_stringText s
  | .array items => by
    rw [text, written]
    have hgap : IsGap [] := by simp [IsGap]
    simpa using Reads.array (reads_itemTexts items) hgap
  | .object members => by
    rw [text, written]
    exact Reads.object (readsMember_memberTexts members)

theorem reads_itemTexts :
    ∀ items : List Json, List.Forall₂ Reads (itemTexts items) (writtenItems items)
  | [] => by
    rw [itemTexts, writtenItems]
    exact .nil
  | item :: items => by
    rw [itemTexts, writtenItems]
    exact .cons (reads_text item) (reads_itemTexts items)

theorem readsMember_memberTexts :
    ∀ members : List (String × Json),
      List.Forall₂ ReadsMember (memberTexts members) (writtenMembers members)
  | [] => by
    rw [memberTexts, writtenMembers]
    exact .nil
  | (name, value) :: members => by
    rw [memberTexts, writtenMembers]
    exact .cons ⟨value.text, rfl, reads_text value⟩ (readsMember_memberTexts members)

end

/-! ### Whole texts -/

/-- A text is parsed as the value it is read as, blanks behind it being ignored. -/
theorem Reads.parse?_append {text gap : List Char} {value : Json} (h : Reads text value)
    (hgap : IsGap gap) : parse? (text ++ gap) = some value := by
  have hend : StopsNumber [] := by simp [StopsNumber]
  have hstop : StopsNumber gap := by simpa using stopsNumber_gap hgap hend
  have hlength : text.length < (text ++ gap).length + 1 := by
    rw [List.length_append]
    omega
  have hread := h ((text ++ gap).length + 1) gap hlength hstop
  unfold parse?
  rw [hread]
  simp only
  rw [if_pos]
  simpa [skipGap] using skipGap_append hgap []

end BlockExtent.Json
