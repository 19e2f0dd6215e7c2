import BlockExtent.Json.Parser
import BlockExtent.Json.Text
import Mathlib.Tactic.IntervalCases
import Mathlib.Tactic.SplitIfs

/-!
# Strings read back

Every character is written either as itself or as an escape of two or six
characters, and each form is read as the character, whatever follows.

## Main results

* `Json.readString?_charText` — a character is read from what is written for it.
* `Json.readString?_flatMap` — a string is read from its text.
-/

namespace BlockExtent.Json

/-- An escape of two characters. -/
private theorem readString?_escape {c letter : Char} {rest : List Char} (hletter : letter ≠ 'u')
    (h : escaped? letter = some c) :
    readString? ('\\' :: letter :: rest)
      = (readString? rest).map fun (chars, rest) => (c :: chars, rest) := by
  rw [readString?]
  · rw [h]
    cases readString? rest <;> rfl
  · intro a b c d rest heq
    exact absurd heq hletter

/-- A control is written with four hexadecimal digits, which are read as its code
point. -/
private theorem hexQuad?_hexDigitsPadded :
    ∀ n < 0x20, ∃ a b c d, hexDigitsPadded 4 n = [a, b, c, d] ∧ hexQuad? a b c d = some n := by
  intro n hn
  unfold hexDigitsPadded hexDigits
  interval_cases n <;> exact ⟨_, _, _, _, rfl, by decide⟩

private theorem charOf?_toNat (c : Char) : charOf? c.toNat = some c := by
  unfold charOf?
  exact dif_pos c.valid

/-- An escape of six characters. -/
private theorem readString?_hexDigitsPadded {c : Char} {rest : List Char}
    (hc : c.toNat < 0x20) :
    readString? ('\\' :: 'u' :: (hexDigitsPadded 4 c.toNat ++ rest))
      = (readString? rest).map fun (chars, rest) => (c :: chars, rest) := by
  obtain ⟨d₁, d₂, d₃, d₄, htext, hquad⟩ := hexQuad?_hexDigitsPadded c.toNat hc
  -- controls are no halves of pairs, so no second escape is expected
  have hhalf : isHighHalf c.toNat = false := by
    unfold isHighHalf
    simp only [Bool.and_eq_false_iff, decide_eq_false_iff_not]
    omega
  rw [htext, List.cons_append, List.cons_append, List.cons_append, List.cons_append,
    List.nil_append, readString?, hquad]
  simp only [Option.bind_eq_bind, Option.bind_some]
  rw [hhalf, if_neg Bool.false_ne_true, charOf?_toNat, Option.bind_some]
  cases readString? rest <;> rfl

/-- A character that stands for itself. -/
private theorem readString?_plain {c : Char} {rest : List Char} (hquote : c ≠ '\"')
    (hslash : c ≠ '\\') (hc : ¬ c.toNat < 0x20) :
    readString? (c :: rest)
      = (readString? rest).map fun (chars, rest) => (c :: chars, rest) := by
  rw [readString?]
  · rw [if_neg hc]
    cases readString? rest <;> rfl
  all_goals grind

/-- A character is read from what is written for it. -/
theorem readString?_charText (c : Char) (rest : List Char) :
    readString? (charText c ++ rest)
      = (readString? rest).map fun (chars, rest) => (c :: chars, rest) := by
  unfold charText
  split_ifs with hmark hbackspace hfeed hline hreturn htab hcontrol
  · refine readString?_escape ?_ ?_
    · rcases hmark with rfl | rfl <;> decide
    · unfold escaped?
      rw [if_pos (by rcases hmark with rfl | rfl <;> decide)]
  · subst hbackspace
    exact readString?_escape (by decide) rfl
  · subst hfeed
    exact readString?_escape (by decide) rfl
  · subst hline
    exact readString?_escape (by decide) rfl
  · subst hreturn
    exact readString?_escape (by decide) rfl
  · subst htab
    exact readString?_escape (by decide) rfl
  · exact readString?_hexDigitsPadded hcontrol
  · obtain ⟨hquote, hslash⟩ := not_or.mp hmark
    exact readString?_plain hquote hslash hcontrol

/-- **A string is read from its text**, up to the mark that closes it. -/
theorem readString?_flatMap (chars rest : List Char) :
    readString? (chars.flatMap charText ++ '\"' :: rest) = some (chars, rest) := by
  induction chars with
  | nil => rw [List.flatMap_nil, List.nil_append, readString?]
  | cons c chars ih =>
    rw [List.flatMap_cons, List.append_assoc, readString?_charText, ih]
    rfl

end BlockExtent.Json
