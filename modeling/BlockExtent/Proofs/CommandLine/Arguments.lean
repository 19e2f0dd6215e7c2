import BlockExtent.CommandLine.Arguments
import Mathlib.Algebra.Group.Int.Defs
import Mathlib.Algebra.Group.Nat.Defs

/-!
# Levels among the arguments

The arguments that choose all levels are those that do not speak of levels, and a level in
front of them is the one that is chosen.

## Main definitions

* `Settings.atLevel` — the settings for a single level.
* `levelArguments` — arguments with a level in front.

## Main results

* `signedWord32?_signed` — a sign and digits are read as the integer that they stand for.
* `levelOf_toString` — the digits of a level stand for it.
* `Request.parse_levelArguments` — a level in front of arguments that choose all levels.
-/

namespace BlockExtent

/-- The settings for a single level. -/
def Settings.atLevel (settings : Settings) (index : ℕ) : Settings :=
  { settings with choice := .single index }

/-- Arguments with a level in front. -/
def levelArguments (index : ℕ) (arguments : List String) : List String :=
  "-ovr" :: toString index :: arguments

/-! ### Digits -/

theorem isBlank_eq_false_of_isDigit {c : Char} (h : c.isDigit = true) : isBlank c = false := by
  have hbounds : 48 ≤ c.toNat ∧ c.toNat ≤ 57 := by
    simpa [Char.isDigit, UInt32.le_iff_toNat_le] using h
  unfold isBlank
  simp only [Bool.or_eq_false_iff, Bool.and_eq_false_iff, decide_eq_false_iff_not,
    beq_eq_false_iff_ne]
  omega

/-- Text without blank characters is as it is. -/
theorem trimBlank_eq_self {text : List Char} (h : ∀ c ∈ text, isBlank c = false) :
    trimBlank text = text := by
  have hdrop : text.dropWhile isBlank = text := by
    cases text with
    | nil => rfl
    | cons c cs => exact List.dropWhile_cons_of_neg (Bool.eq_false_iff.mp (h c List.mem_cons_self))
  rw [trimBlank, hdrop]
  exact dropTrailing_eq_self isBlank fun c hc => h c (List.mem_of_getLast? hc)

/-- A minus sign in front of a number. -/
theorem ite_neg_eq (minus : Prop) [Decidable minus] (n : ℤ) :
    (if decide minus = true then -n else n) = (if minus then -1 else 1) * n := by
  by_cases h : minus <;> simp [h]

/-- A sign and digits are read as the integer that they stand for. -/
theorem signedWord32?_signed {sign digits : List Char} {n : ℤ}
    (hsign : sign = [] ∨ sign = ['+'] ∨ sign = ['-']) (hne : digits ≠ [])
    (hdigit : ∀ c ∈ digits, c.isDigit = true)
    (hn : n = (if sign = ['-'] then -1 else 1) * (Nat.ofDigitChars 10 digits 0 : ℤ))
    (hlow : -2 ^ 31 ≤ n) (hhigh : n < 2 ^ 31) : signedWord32? (sign ++ digits) = some n := by
  have hall : ¬ (digits = [] ∨ digits.all Char.isDigit = false) := by
    rw [List.all_eq_true.mpr hdigit]
    simp [hne]
  unfold signedWord32?
  split
  rename_i negative digits' hsplit
  have hparts : negative = decide (sign = ['-']) ∧ digits' = digits := by
    rcases hsign with rfl | rfl | rfl
    · -- the first digit is no sign
      obtain ⟨c, cs, rfl⟩ := List.exists_cons_of_ne_nil hne
      have hc := hdigit c List.mem_cons_self
      split at hsplit
      · rename_i heq
        cases heq
        contradiction
      · rename_i heq
        cases heq
        contradiction
      · cases hsplit
        exact ⟨rfl, rfl⟩
    · cases hsplit
      exact ⟨rfl, rfl⟩
    · cases hsplit
      exact ⟨rfl, rfl⟩
  obtain ⟨rfl, rfl⟩ := hparts
  rw [if_neg hall]
  dsimp only
  rw [ite_neg_eq, ← hn, if_pos ⟨hlow, hhigh⟩]

/-- Digits without a sign stand for their value, if a word can hold it. -/
theorem signedWord32?_of_isDigit {text : List Char} (hne : text ≠ [])
    (hdigit : ∀ c ∈ text, c.isDigit = true) (hlt : Nat.ofDigitChars 10 text 0 < 2 ^ 31) :
    signedWord32? text = some (Nat.ofDigitChars 10 text 0 : ℤ) :=
  signedWord32?_signed (.inl rfl) hne hdigit (by simp) (by omega) (by omega)

/-- **The digits of a level stand for it.** -/
theorem levelOf_toString {index : ℕ} (h : index < 2 ^ 31) :
    Request.levelOf (toString index) = .ok (.single index) := by
  have hdigits : (toString index).toList = Nat.toDigits 10 index := by
    rw [Nat.toString_eq_ofList_toDigits, String.toList_ofList]
  have hdigit : ∀ c ∈ Nat.toDigits 10 index, c.isDigit = true := fun c hc =>
    Nat.isDigit_of_mem_toDigits (by decide) (by decide) hc
  have hvalue : Nat.ofDigitChars 10 (Nat.toDigits 10 index) 0 = index :=
    Nat.ofDigitChars_ten_toDigits
  have htrim := trimBlank_eq_self fun c hc => isBlank_eq_false_of_isDigit (hdigit c hc)
  have hword := signedWord32?_of_isDigit Nat.toDigits_ne_nil hdigit (by rwa [hvalue])
  unfold Request.levelOf
  rw [hdigits, htrim, hword, hvalue]

/-! ### Choices -/

namespace Request

/-- An argument chooses a single level. -/
theorem levelOf_ne_all {argument : String} : levelOf argument ≠ .ok .all := by
  unfold levelOf
  split <;> rintro ⟨⟩

/-- Arguments that choose all levels do not speak of levels, so that a choice in front of
them stays. -/
theorem parseFrom_choice {draft : Draft} {arguments : List String} {settings : Settings}
    (h : parseFrom draft arguments = .ok (.convert settings)) (hall : settings.choice = .all) :
    draft.choice = .all ∧ ∀ choice, parseFrom { draft with choice } arguments
      = .ok (.convert { settings with choice }) := by
  -- one case for each branch of the reader
  fun_induction parseFrom draft arguments with
  | case1 draft =>
    unfold ofDraft at h
    split at h
    · rename_i input output hinput houtput
      cases h
      refine ⟨hall, fun choice => ?_⟩
      unfold parseFrom ofDraft
      dsimp only
      rw [hinput, houtput]
    · cases h
  | case2 | case4 | case5 | case7 | case10 => cases h
  | case3 draft value rest ih => exact ih h
  | case6 draft value rest choice hlevel ih =>
    obtain ⟨hchoice, -⟩ := ih h
    dsimp only at hchoice
    rw [hchoice] at hlevel
    exact absurd hlevel levelOf_ne_all
  | case8 draft argument rest _ _ _ _ hflag hinput ih =>
    obtain ⟨hchoice, hparse⟩ := ih h
    refine ⟨hchoice, fun choice => ?_⟩
    rw [parseFrom, if_neg hflag, if_pos hinput]
    · exact hparse choice
    all_goals assumption
  | case9 draft argument rest _ _ _ _ hflag hinput houtput ih =>
    obtain ⟨hchoice, hparse⟩ := ih h
    refine ⟨hchoice, fun choice => ?_⟩
    rw [parseFrom, if_neg hflag, if_neg hinput, if_pos houtput]
    · exact hparse choice
    all_goals assumption

/-- **A level in front of arguments that choose all levels is the one that is chosen.** -/
theorem parse_levelArguments {arguments : List String} {settings : Settings} {index : ℕ}
    (h : parse arguments = .ok (.convert settings)) (hall : settings.choice = .all)
    (hindex : index < 2 ^ 31) :
    parse (levelArguments index arguments) = .ok (.convert (settings.atLevel index)) := by
  unfold parse levelArguments
  rw [parseFrom, levelOf_toString hindex]
  exact (parseFrom_choice h hall).2 _

end Request

end BlockExtent
