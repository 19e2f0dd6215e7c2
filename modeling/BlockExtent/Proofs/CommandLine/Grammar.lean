import BlockExtent.Proofs.CommandLine.Arguments
import Mathlib.Data.Int.Notation
import Mathlib.Data.List.TakeWhile

/-!
# The grammar of the arguments

Arguments are read from left to right as items: an option with the argument after it, whatever
that looks like, or a file name.  They are read as far as they are items.  If nothing is left and
there are two file names, they ask for a conversion; if what is left is a level that is no
integer, that is an error; in all other cases they make no sense.

## Main definitions

* `IsWhiteSpace` — the characters with that property.
* `DenotesWord` — a text stands for an integer of a signed word.
* `ArgumentItem`, `ArgumentItem.spelling` — items, and the arguments that they take up.
* `ArgumentItem.AmountsTo` — what items ask for.
* `Breaks` — what comes after some items is none, and what is said of it.
* `ReadsArguments` — the items that arguments begin with settle what is answered.
* `Draft.next` — the draft after an item.

## Main results

* `signedWord32?_trimBlank_eq_some_iff` — the texts that stand for an integer.
* `AreItems.exists_items` — all arguments are read as far as they are items.
* `Draft.IsOf.parseFrom_append` — reading items, after which the draft holds what they ask for.
* `Draft.foldlM_next_comm` — an option is moved behind items that are no such option.
* `Request.parse_grammar` — **the arguments are answered by the grammar**, and it does not matter
  where the options stand.
-/

namespace BlockExtent

/-! ### Integers -/

/-- The characters that have the property `White_Space` in Unicode. -/
def IsWhiteSpace (c : Char) : Prop :=
  c.toNat ∈ [0x9, 0xa, 0xb, 0xc, 0xd, 0x20, 0x85, 0xa0, 0x1680, 0x2000, 0x2001, 0x2002, 0x2003,
    0x2004, 0x2005, 0x2006, 0x2007, 0x2008, 0x2009, 0x200a, 0x2028, 0x2029, 0x202f, 0x205f, 0x3000]

theorem isBlank_iff {c : Char} : isBlank c = true ↔ IsWhiteSpace c := by
  unfold isBlank IsWhiteSpace
  simp only [Bool.or_eq_true, Bool.and_eq_true, decide_eq_true_eq, beq_iff_eq, List.mem_cons,
    List.not_mem_nil, or_false]
  omega

/-- A text stands for an integer that a signed word of 32 bits can hold: a sign, which may be
missing, and digits, with white space around them. -/
def DenotesWord (text : List Char) (n : ℤ) : Prop :=
  ∃ before sign digits after, text = before ++ (sign ++ digits) ++ after
    ∧ (∀ c ∈ before, IsWhiteSpace c) ∧ (∀ c ∈ after, IsWhiteSpace c)
    ∧ (sign = [] ∨ sign = ['+'] ∨ sign = ['-'])
    ∧ digits ≠ [] ∧ (∀ c ∈ digits, c.isDigit = true)
    ∧ n = (if sign = ['-'] then -1 else 1) * (Nat.ofDigitChars 10 digits 0 : ℤ)
    ∧ -2 ^ 31 ≤ n ∧ n < 2 ^ 31

/-- What is read as an integer is a sign and digits. -/
theorem exists_of_signedWord32? {text : List Char} {n : ℤ} (h : signedWord32? text = some n) :
    ∃ sign digits, text = sign ++ digits ∧ (sign = [] ∨ sign = ['+'] ∨ sign = ['-'])
      ∧ digits ≠ [] ∧ (∀ c ∈ digits, c.isDigit = true)
      ∧ n = (if sign = ['-'] then -1 else 1) * (Nat.ofDigitChars 10 digits 0 : ℤ)
      ∧ -2 ^ 31 ≤ n ∧ n < 2 ^ 31 := by
  unfold signedWord32? at h
  split at h
  rename_i negative digits hsplit
  have hparts : ∃ sign, text = sign ++ digits ∧ (sign = [] ∨ sign = ['+'] ∨ sign = ['-'])
      ∧ negative = decide (sign = ['-']) := by
    split at hsplit
    · cases hsplit
      exact ⟨['-'], rfl, .inr (.inr rfl), rfl⟩
    · cases hsplit
      exact ⟨['+'], rfl, .inr (.inl rfl), rfl⟩
    · cases hsplit
      exact ⟨[], rfl, .inl rfl, rfl⟩
  obtain ⟨sign, rfl, hsign, rfl⟩ := hparts
  split at h
  · cases h
  rename_i hdigits
  obtain ⟨hne, hall⟩ := not_or.mp hdigits
  rw [Bool.not_eq_false, List.all_eq_true] at hall
  dsimp only at h
  rw [ite_neg_eq] at h
  obtain ⟨hbounds, hn⟩ := Option.ite_none_right_eq_some.mp h
  obtain rfl := Option.some.inj hn
  exact ⟨sign, digits, rfl, hsign, hne, hall, rfl, hbounds⟩

/-- Text with blank characters around it. -/
theorem trimBlank_surrounded {before text after : List Char}
    (hbefore : ∀ c ∈ before, isBlank c = true) (htext : ∀ c ∈ text, isBlank c = false)
    (hafter : ∀ c ∈ after, isBlank c = true) : trimBlank (before ++ text ++ after) = text := by
  cases text with
  | nil =>
    have hall : ∀ c ∈ before ++ [] ++ after, isBlank c = true := by
      intro c hc
      rw [List.append_nil, List.mem_append] at hc
      exact hc.elim (hbefore c) (hafter c)
    unfold trimBlank
    rw [List.dropWhile_eq_nil_iff.mpr hall]
    rfl
  | cons c cs =>
    have hc : ¬ isBlank c = true := Bool.eq_false_iff.mp (htext c List.mem_cons_self)
    rw [trimBlank, List.append_assoc, List.dropWhile_append_of_pos hbefore, List.cons_append,
      List.dropWhile_cons_of_neg hc]
    exact dropTrailing_eq_iff.mpr
      ⟨after, rfl, hafter, fun a ha => htext a (List.mem_of_getLast? ha)⟩

/-- There are blank characters only around the text that is left. -/
theorem exists_trimBlank (text : List Char) :
    ∃ before after, text = before ++ trimBlank text ++ after
      ∧ (∀ c ∈ before, isBlank c = true) ∧ ∀ c ∈ after, isBlank c = true := by
  obtain ⟨after, hsplit, hafter⟩ :=
    exists_dropTrailing_append isBlank (text.dropWhile isBlank)
  refine ⟨text.takeWhile isBlank, after, ?_, List.all_eq_true.mp List.all_takeWhile, hafter⟩
  unfold trimBlank
  rw [List.append_assoc, ← hsplit, List.takeWhile_append_dropWhile]

/-- **The texts that stand for an integer** are those that are read as one when they are
trimmed. -/
theorem signedWord32?_trimBlank_eq_some_iff {text : List Char} {n : ℤ} :
    signedWord32? (trimBlank text) = some n ↔ DenotesWord text n := by
  unfold DenotesWord
  simp only [← isBlank_iff]
  constructor
  · intro h
    obtain ⟨before, after, hsplit, hbefore, hafter⟩ := exists_trimBlank text
    obtain ⟨sign, digits, htrim, hrest⟩ := exists_of_signedWord32? h
    rw [htrim] at hsplit
    exact ⟨before, sign, digits, after, hsplit, hbefore, hafter, hrest⟩
  · rintro ⟨before, sign, digits, after, rfl, hbefore, hafter, hsign, hne, hdigit, hn, hlow, hhigh⟩
    have hplain : ∀ c ∈ sign ++ digits, isBlank c = false := by
      intro c hc
      rcases List.mem_append.mp hc with hc | hc
      · rcases hsign with rfl | rfl | rfl
        · cases hc
        · rw [List.mem_singleton.mp hc]
          rfl
        · rw [List.mem_singleton.mp hc]
          rfl
      · exact isBlank_eq_false_of_isDigit (hdigit c hc)
    rw [trimBlank_surrounded hbefore hplain hafter]
    exact signedWord32?_signed hsign hne hdigit hn hlow hhigh

namespace Request

theorem levelOf_eq_ok_iff {value : String} {choice : LevelChoice} :
    levelOf value = .ok choice ↔ ∃ n, DenotesWord value.toList n ∧ choice = .single n := by
  simp only [← signedWord32?_trimBlank_eq_some_iff]
  unfold levelOf
  constructor
  · intro h
    split at h
    · rename_i n hn
      cases h
      exact ⟨n, hn, rfl⟩
    · cases h
  · rintro ⟨n, hn, rfl⟩
    rw [hn]

/-- A value that stands for no integer is reported as it was given. -/
theorem levelOf_of_not_denotesWord {value : String} (h : ¬ ∃ n, DenotesWord value.toList n) :
    levelOf value = .error (.levelNotAnInteger value) := by
  simp only [← signedWord32?_trimBlank_eq_some_iff] at h
  unfold levelOf
  split
  · rename_i n hn
    exact absurd ⟨n, hn⟩ h
  · rfl

/-- Of the integers that a text stands for there is one only. -/
theorem eq_of_denotesWord {text : List Char} {n k : ℤ} (hn : DenotesWord text n)
    (hk : DenotesWord text k) : n = k := by
  rw [← signedWord32?_trimBlank_eq_some_iff] at hn hk
  exact Option.some.inj (hn.symm.trans hk)

/-- What does not begin with a dash is neither an option nor looks like one. -/
theorem isFlag_eq_false {word : String} (h : word.toList.head? ≠ some '-') :
    isFlag word = false ∧ word ≠ "-f" ∧ word ≠ "-ovr" := by
  refine ⟨beq_eq_false_iff_ne.mpr h, ?_, ?_⟩
  · rintro rfl
    exact h rfl
  · rintro rfl
    exact h rfl

/-- An argument that is no option. -/
theorem parseFrom_word {word : String} (hformat : word ≠ "-f") (hlevel : word ≠ "-ovr")
    (draft : Draft) (rest : List String) :
    parseFrom draft (word :: rest) =
      if isFlag word then .ok .help
      else if draft.input.isNone then parseFrom { draft with input := some word } rest
      else if draft.output.isNone then parseFrom { draft with output := some word } rest
      else .ok .help := by
  rw [parseFrom]
  · exact fun heq _ => hformat heq
  · exact fun _ _ heq _ => hformat heq
  · exact fun heq _ => hlevel heq
  · exact fun _ _ heq _ => hlevel heq

end Request

/-! ### Items -/

/-- What arguments consist of. -/
inductive ArgumentItem where
  /-- A format, with the option in front of it. -/
  | format (value : String)
  /-- A level, with the option in front of it. -/
  | level (value : String)
  /-- The name of a file. -/
  | name (path : String)
deriving DecidableEq, Repr

namespace ArgumentItem

/-- The arguments that an item takes up. -/
def spelling : ArgumentItem → List String
  | .format value => ["-f", value]
  | .level value => ["-ovr", value]
  | .name path => [path]

/-- The file name that an item is. -/
def name? : ArgumentItem → Option String
  | .name path => some path
  | _ => none

/-- The format that an item is. -/
def format? : ArgumentItem → Option String
  | .format value => some value
  | _ => none

/-- The level that an item is, as it is written. -/
def level? : ArgumentItem → Option String
  | .level value => some value
  | _ => none

/-- Anything is a format, a level is an integer, and a file name does not begin with a dash. -/
def IsProper : ArgumentItem → Prop
  | .format _ => True
  | .level value => ∃ n, DenotesWord value.toList n
  | .name path => path.toList.head? ≠ some '-'

theorem IsProper.plain {item : ArgumentItem} (h : item.IsProper) :
    ∀ path, item = .name path → path.toList.head? ≠ some '-' := by
  rintro path rfl
  exact h

/-- Of several levels the last one is chosen, and without one all levels are. -/
def Chooses (items : List ArgumentItem) (choice : LevelChoice) : Prop :=
  match (items.filterMap level?).getLast? with
  | none => choice = .all
  | some value => ∃ n, DenotesWord value.toList n ∧ choice = .single n

/-- What items ask for: there are two file names, and of several formats the last one counts. -/
structure AmountsTo (items : List ArgumentItem) (settings : Settings) : Prop where
  names_eq : items.filterMap name? = [settings.input, settings.output]
  format_eq : settings.format = (items.filterMap format?).getLast?
  chooses : Chooses items settings.choice

/-- Items make one choice at most. -/
theorem Chooses.eq {items : List ArgumentItem} {choice choice' : LevelChoice}
    (h : Chooses items choice) (h' : Chooses items choice') : choice = choice' := by
  unfold Chooses at h h'
  cases hlast : (items.filterMap level?).getLast? with
  | none =>
    rw [hlast] at h h'
    exact h.trans h'.symm
  | some value =>
    rw [hlast] at h h'
    obtain ⟨n, hn, rfl⟩ := h
    obtain ⟨n', hn', rfl⟩ := h'
    rw [Request.eq_of_denotesWord hn hn']

/-- Items ask for one conversion at most. -/
theorem AmountsTo.eq {items : List ArgumentItem} {settings settings' : Settings}
    (h : AmountsTo items settings) (h' : AmountsTo items settings') : settings = settings' := by
  have hnames := h.names_eq.symm.trans h'.names_eq
  have hformat := h.format_eq.trans h'.format_eq.symm
  have hchoice := h.chooses.eq h'.chooses
  obtain ⟨input, output, format, choice⟩ := settings
  obtain ⟨input', output', format', choice'⟩ := settings'
  simp_all

end ArgumentItem

open ArgumentItem

/-- Behind some items there is what is no item, or no more than two file names.  What is said of
it is the usage, unless it is a level. -/
inductive Breaks (items : List ArgumentItem) : List String → Except Failure Request → Prop where
  /-- Only the two options begin with a dash. -/
  | unknownOption {word : String} (rest : List String) (hdash : word.toList.head? = some '-')
      (hformat : word ≠ "-f") (hlevel : word ≠ "-ovr") : Breaks items (word :: rest) (.ok .help)
  /-- An option has a value. -/
  | formatWithoutValue : Breaks items ["-f"] (.ok .help)
  /-- An option has a value. -/
  | levelWithoutValue : Breaks items ["-ovr"] (.ok .help)
  /-- There are two file names only. -/
  | thirdName {word : String} (rest : List String) (hdash : word.toList.head? ≠ some '-')
      (hnames : (items.filterMap name?).length = 2) : Breaks items (word :: rest) (.ok .help)
  /-- A level is an integer. -/
  | badLevel {value : String} (rest : List String) (hvalue : ¬ ∃ n, DenotesWord value.toList n) :
      Breaks items ("-ovr" :: value :: rest) (.error (.levelNotAnInteger value))

/-- What is said of items and of what comes after them. -/
inductive Answers (items : List ArgumentItem) : List String → Except Failure Request → Prop where
  /-- There is nothing left, and there are two file names. -/
  | convert {settings : Settings} (h : AmountsTo items settings) :
      Answers items [] (.ok (.convert settings))
  /-- There is nothing left, and a file name is missing. -/
  | nameMissing (hnames : (items.filterMap name?).length < 2) : Answers items [] (.ok .help)
  /-- What is left is no item. -/
  | breaks {rest : List String} {result : Except Failure Request} (h : Breaks items rest result) :
      Answers items rest result

/-- Items that arguments can begin with. -/
structure AreItems (items : List ArgumentItem) : Prop where
  isProper : ∀ item ∈ items, item.IsProper
  names_le : (items.filterMap name?).length ≤ 2

theorem AreItems.of_append {items more : List ArgumentItem} (h : AreItems (items ++ more)) :
    AreItems items where
  isProper item hitem := h.isProper item (List.mem_append_left more hitem)
  names_le := by
    have hle := h.names_le
    rw [List.filterMap_append, List.length_append] at hle
    omega

/-- Arguments are answered by the items that they begin with and by what comes after them. -/
def ReadsArguments (arguments : List String) (result : Except Failure Request) : Prop :=
  ∃ items rest, arguments = items.flatMap spelling ++ rest ∧ AreItems items
    ∧ Answers items rest result

/-! ### Reading items -/

/-- The draft after an item, or what is answered because of the item. -/
def Draft.next (draft : Draft) : ArgumentItem → Except (Except Failure Request) Draft
  | .format value => .ok { draft with format := some value }
  | .level value =>
    match Request.levelOf value with
    | .error cause => .error (.error cause)
    | .ok choice => .ok { draft with choice }
  | .name path =>
    if draft.input.isNone then .ok { draft with input := some path }
    else if draft.output.isNone then .ok { draft with output := some path }
    else .error (.ok .help)

/-- What is read of the arguments that remain, if it has not been answered yet. -/
def Request.parseNext (next : Except (Except Failure Request) Draft) (rest : List String) :
    Except Failure Request :=
  match next with
  | .error result => result
  | .ok draft => parseFrom draft rest

/-- **An item is read**, be that a level that is no integer or a file name too many. -/
theorem Request.parseFrom_spelling (draft : Draft) {item : ArgumentItem}
    (hplain : ∀ path, item = .name path → path.toList.head? ≠ some '-') (rest : List String) :
    parseFrom draft (item.spelling ++ rest) = parseNext (draft.next item) rest := by
  cases item with
  | format value => rfl
  | level value =>
    change parseFrom draft ("-ovr" :: value :: rest) = parseNext (draft.next (.level value)) rest
    rw [parseFrom, Draft.next]
    cases levelOf value <;> rfl
  | name path =>
    obtain ⟨hflag, hformat, hlevel⟩ := isFlag_eq_false (hplain path rfl)
    change parseFrom draft (path :: rest) = parseNext (draft.next (.name path)) rest
    rw [parseFrom_word hformat hlevel, hflag, if_neg Bool.false_ne_true, Draft.next]
    split
    · rfl
    · split <;> rfl

/-- A draft holds what some items ask for. -/
structure Draft.IsOf (draft : Draft) (items : List ArgumentItem) : Prop where
  names_eq : items.filterMap name? = draft.input.toList ++ draft.output.toList
  output_eq : draft.input = none → draft.output = none
  format_eq : draft.format = (items.filterMap format?).getLast?
  chooses : Chooses items draft.choice

/-- At first there is nothing. -/
theorem Draft.isOf_nil : Draft.IsOf {} [] := ⟨rfl, fun _ => rfl, rfl, rfl⟩

section Items

variable {draft : Draft} {items : List ArgumentItem}

/-- A draft holds no file name, one or two of them. -/
theorem Draft.IsOf.names_cases (h : draft.IsOf items) :
    (draft.input = none ∧ draft.output = none ∧ items.filterMap name? = [])
      ∨ (∃ input, draft.input = some input ∧ draft.output = none
        ∧ items.filterMap name? = [input])
      ∨ ∃ input output, draft.input = some input ∧ draft.output = some output
        ∧ items.filterMap name? = [input, output] := by
  have hnames := h.names_eq
  cases hinput : draft.input with
  | none =>
    have houtput := h.output_eq hinput
    rw [hinput, houtput] at hnames
    exact .inl ⟨rfl, houtput, hnames⟩
  | some input =>
    rw [hinput] at hnames
    cases houtput : draft.output with
    | none =>
      rw [houtput] at hnames
      exact .inr (.inl ⟨input, rfl, rfl, hnames⟩)
    | some output =>
      rw [houtput] at hnames
      exact .inr (.inr ⟨input, output, rfl, rfl, hnames⟩)

/-- **An item is read**, and the draft holds it too. -/
theorem Draft.IsOf.parseFrom_item (h : draft.IsOf items) {item : ArgumentItem}
    (hitem : AreItems (items ++ [item])) (rest : List String) :
    ∃ draft' : Draft, Request.parseFrom draft (item.spelling ++ rest)
        = Request.parseFrom draft' rest
      ∧ draft'.IsOf (items ++ [item]) := by
  have hproper := hitem.isProper item (List.mem_append_right items List.mem_cons_self)
  have hnames := hitem.names_le
  rw [Request.parseFrom_spelling draft hproper.plain]
  cases item with
  | format value =>
    refine ⟨{ draft with format := some value }, rfl, ?_, h.output_eq, ?_, ?_⟩
    · simp [name?, h.names_eq]
    · simp [format?]
    · simpa [Chooses, level?] using h.chooses
  | level value =>
    obtain ⟨n, hn⟩ := hproper
    have hlevel : Request.levelOf value = .ok (.single n) :=
      Request.levelOf_eq_ok_iff.mpr ⟨n, hn, rfl⟩
    refine ⟨{ draft with choice := .single n }, ?_, ?_, h.output_eq, ?_, ?_⟩
    · rw [Draft.next, hlevel]
      rfl
    · simp [name?, h.names_eq]
    · simpa [format?] using h.format_eq
    · simpa [Chooses, level?] using hn
  | name path =>
    have hformat : draft.format
        = ((items ++ [ArgumentItem.name path]).filterMap format?).getLast? := by
      simpa [format?] using h.format_eq
    have hchooses : Chooses (items ++ [ArgumentItem.name path]) draft.choice := by
      simpa [Chooses, level?] using h.chooses
    rw [List.filterMap_append, List.length_append] at hnames
    rcases h.names_cases with ⟨hinput, houtput, heq⟩ | ⟨input, hinput, houtput, heq⟩
      | ⟨input, output, -, -, heq⟩
    · refine ⟨{ draft with input := some path }, ?_, ?_, ?_, hformat, hchooses⟩
      · rw [Draft.next, hinput]
        rfl
      · simp [name?, heq, houtput]
      · rintro ⟨⟩
    · refine ⟨{ draft with output := some path }, ?_, ?_, ?_, hformat, hchooses⟩
      · rw [Draft.next, hinput, houtput]
        rfl
      · simp [name?, heq, hinput]
      · rintro hnone
        exact absurd (hinput.symm.trans hnone) (Option.some_ne_none input)
    · rw [heq] at hnames
      exact absurd hnames (by simp [name?])

/-- **Items are read**, and the draft holds them too. -/
theorem Draft.IsOf.parseFrom_append (h : draft.IsOf items) {more : List ArgumentItem}
    (hmore : AreItems (items ++ more)) (rest : List String) :
    ∃ draft' : Draft, Request.parseFrom draft (more.flatMap spelling ++ rest)
        = Request.parseFrom draft' rest
      ∧ draft'.IsOf (items ++ more) := by
  induction more generalizing draft items with
  | nil => exact ⟨draft, rfl, by rwa [List.append_nil]⟩
  | cons item more ih =>
    rw [List.append_cons] at hmore ⊢
    have hitem : AreItems (items ++ [item]) := hmore.of_append
    obtain ⟨draft₁, hfirst, hdraft₁⟩ := h.parseFrom_item hitem (more.flatMap spelling ++ rest)
    obtain ⟨draft', hrest, hdraft'⟩ := ih hdraft₁ hmore
    refine ⟨draft', ?_, hdraft'⟩
    rw [List.flatMap_cons, List.append_assoc, hfirst, hrest]

/-- What comes after the items is answered as the grammar says. -/
theorem Draft.IsOf.parseFrom_eq (h : draft.IsOf items) {rest : List String}
    {result : Except Failure Request} (hanswers : Answers items rest result) :
    Request.parseFrom draft rest = result := by
  cases hanswers with
  | @convert settings hamounts =>
    have hnames := hamounts.names_eq
    rcases h.names_cases with ⟨-, -, heq⟩ | ⟨input, -, -, heq⟩ | ⟨input, output, hin, hout, heq⟩
    · rw [heq] at hnames
      cases hnames
    · rw [heq] at hnames
      cases hnames
    · have hof : AmountsTo items ⟨input, output, draft.format, draft.choice⟩ :=
        ⟨heq, h.format_eq, h.chooses⟩
      unfold Request.parseFrom Request.ofDraft
      rw [hin, hout]
      dsimp only
      rw [hof.eq hamounts]
  | nameMissing hfew =>
    unfold Request.parseFrom Request.ofDraft
    rcases h.names_cases with ⟨hin, -, -⟩ | ⟨input, hin, hout, -⟩ | ⟨input, output, -, -, heq⟩
    · rw [hin]
    · rw [hin, hout]
    · rw [heq] at hfew
      exact absurd hfew (by simp)
  | breaks hbreaks =>
    cases hbreaks with
    | @unknownOption word rest hdash hformat hlevel =>
      have hflag : Request.isFlag word = true := beq_iff_eq.mpr hdash
      rw [Request.parseFrom_word hformat hlevel, if_pos hflag]
    | formatWithoutValue => rfl
    | levelWithoutValue => rfl
    | thirdName rest hdash htwo =>
      obtain ⟨hflag, hformat, hlevel⟩ := Request.isFlag_eq_false hdash
      rcases h.names_cases with ⟨-, -, heq⟩ | ⟨input, -, -, heq⟩ | ⟨input, output, hin, hout, -⟩
      · rw [heq] at htwo
        cases htwo
      · rw [heq] at htwo
        cases htwo
      · rw [Request.parseFrom_word hformat hlevel, hflag, hin, hout]
        rfl
    | badLevel rest hvalue =>
      rw [Request.parseFrom, Request.levelOf_of_not_denotesWord hvalue]

end Items

/-- **Arguments are answered as the grammar says.** -/
theorem ReadsArguments.parse_eq {arguments : List String} {result : Except Failure Request}
    (h : ReadsArguments arguments result) : Request.parse arguments = result := by
  obtain ⟨items, rest, rfl, hitems, hanswers⟩ := h
  obtain ⟨draft, hparse, hdraft⟩ := Draft.isOf_nil.parseFrom_append hitems rest
  exact hparse.trans (hdraft.parseFrom_eq hanswers)

/-! ### Reading any arguments -/

section AnyArguments

variable {items : List ArgumentItem}

/-- There may be one more option, or one more file name if there are not two. -/
theorem AreItems.concat (h : AreItems items) {item : ArgumentItem} (hproper : item.IsProper)
    (hnames : item.name? = none ∨ (items.filterMap name?).length < 2) :
    AreItems (items ++ [item]) where
  isProper := by
    intro other hother
    rcases List.mem_append.mp hother with hother | hother
    · exact h.isProper other hother
    · rw [List.mem_singleton.mp hother]
      exact hproper
  names_le := by
    have hle := h.names_le
    rw [List.filterMap_append, List.length_append]
    rcases hnames with hnone | hlt
    · rw [List.filterMap_cons_none hnone]
      simpa using hle
    · have hone : ([item].filterMap name?).length ≤ 1 := List.length_filterMap_le _ _
      omega

/-- Proper items make a choice. -/
theorem exists_chooses (h : ∀ item ∈ items, item.IsProper) : ∃ choice, Chooses items choice := by
  unfold Chooses
  cases hlast : (items.filterMap level?).getLast? with
  | none => exact ⟨.all, rfl⟩
  | some value =>
    obtain ⟨item, hitem, hvalue⟩ := List.mem_filterMap.mp (List.mem_of_getLast? hlast)
    have hproper := h item hitem
    cases item with
    | level value' =>
      obtain rfl : value' = value := Option.some.inj hvalue
      obtain ⟨n, hn⟩ := hproper
      exact ⟨.single n, n, hn, rfl⟩
    | format _ => cases hvalue
    | name _ => cases hvalue

/-- Items with nothing behind them are answered. -/
theorem AreItems.exists_answers (h : AreItems items) : ∃ result, Answers items [] result := by
  have hle := h.names_le
  obtain ⟨choice, hchoice⟩ := exists_chooses h.isProper
  match hnames : items.filterMap name? with
  | [] => exact ⟨_, .nameMissing (by simp [hnames])⟩
  | [input] => exact ⟨_, .nameMissing (by simp [hnames])⟩
  | [input, output] =>
    exact ⟨_, @Answers.convert items ⟨input, output, _, choice⟩ ⟨hnames, rfl, hchoice⟩⟩
  | _ :: _ :: _ :: _ =>
    rw [hnames] at hle
    exact absurd hle (by simp)

/-- **All arguments are read as far as they are items**, and something is said of the rest. -/
theorem AreItems.exists_items (h : AreItems items) (arguments : List String) :
    ∃ more rest result, arguments = more.flatMap spelling ++ rest ∧ AreItems (items ++ more)
      ∧ Answers (items ++ more) rest result := by
  -- an item takes up one argument or two
  induction hlength : arguments.length using Nat.strongRecOn generalizing items arguments with
  | ind length ih =>
    have hstop : ∀ {result}, Answers items arguments result →
        ∃ more rest result, arguments = more.flatMap spelling ++ rest ∧ AreItems (items ++ more)
          ∧ Answers (items ++ more) rest result := by
      intro result hanswers
      exact ⟨[], arguments, result, rfl, by rwa [List.append_nil], by rwa [List.append_nil]⟩
    have hgo : ∀ {item : ArgumentItem} {others}, arguments = item.spelling ++ others →
        others.length < length → AreItems (items ++ [item]) →
        ∃ more rest result, arguments = more.flatMap spelling ++ rest ∧ AreItems (items ++ more)
          ∧ Answers (items ++ more) rest result := by
      intro item others harguments hshorter hitem
      obtain ⟨more, rest, result, hothers, hmore, hanswers⟩ := ih _ hshorter hitem others rfl
      rw [← List.append_cons] at hmore hanswers
      refine ⟨item :: more, rest, result, ?_, hmore, hanswers⟩
      rw [harguments, hothers, List.flatMap_cons, List.append_assoc]
    match arguments with
    | [] =>
      obtain ⟨result, hanswers⟩ := h.exists_answers
      exact hstop hanswers
    | word :: others =>
      subst hlength
      by_cases hformat : word = "-f"
      · subst hformat
        match others with
        | [] => exact hstop (.breaks .formatWithoutValue)
        | value :: others =>
          exact @hgo (.format value) others rfl (Nat.lt_succ_of_lt (Nat.lt_succ_self _))
            (h.concat trivial (.inl rfl))
      by_cases hlevel : word = "-ovr"
      · subst hlevel
        match others with
        | [] => exact hstop (.breaks .levelWithoutValue)
        | value :: others =>
          by_cases hvalue : ∃ n, DenotesWord value.toList n
          · exact @hgo (.level value) others rfl (Nat.lt_succ_of_lt (Nat.lt_succ_self _))
              (h.concat hvalue (.inl rfl))
          · exact hstop (.breaks (.badLevel others hvalue))
      by_cases hdash : word.toList.head? = some '-'
      · exact hstop (.breaks (.unknownOption others hdash hformat hlevel))
      · have hle := h.names_le
        by_cases htwo : (items.filterMap name?).length = 2
        · exact hstop (.breaks (.thirdName others hdash htwo))
        · exact @hgo (.name word) others rfl (Nat.lt_succ_self _) (h.concat hdash (.inr (by omega)))

theorem areItems_nil : AreItems [] := ⟨by rintro item ⟨⟩, Nat.zero_le 2⟩

end AnyArguments

/-! ### Moving options -/

namespace ArgumentItem

/-- The option that an item gives a value to. -/
def flag? : ArgumentItem → Option String
  | .format _ => some "-f"
  | .level _ => some "-ovr"
  | .name _ => none

/-- No file name begins with a dash. -/
def NamesPlain (items : List ArgumentItem) : Prop :=
  ∀ path, .name path ∈ items → path.toList.head? ≠ some '-'

end ArgumentItem

/-- Items are read one after the other. -/
theorem Request.parseFrom_flatMap_spelling {items : List ArgumentItem} (hplain : NamesPlain items)
    (draft : Draft) (rest : List String) :
    parseFrom draft (items.flatMap spelling ++ rest)
      = parseNext (items.foldlM Draft.next draft) rest := by
  induction items generalizing draft with
  | nil => rfl
  | cons item items ih =>
    have hitem : ∀ path, item = .name path → path.toList.head? ≠ some '-' :=
      fun path hpath => hplain path (hpath ▸ List.mem_cons_self)
    have hitems : NamesPlain items := fun path hpath => hplain path (List.mem_cons_of_mem _ hpath)
    rw [List.flatMap_cons, List.append_assoc, parseFrom_spelling draft hitem, List.foldlM_cons]
    cases draft.next item with
    | error result => rfl
    | ok draft' => exact ih hitems draft'

/-- A proper option changes the draft, and leaves what another item does as it is. -/
theorem Draft.next_comm {option item : ArgumentItem} (hproper : option.IsProper)
    (hoption : option.flag?.isSome) (hother : item.flag? ≠ option.flag?) (draft : Draft) :
    (draft.next option >>= (·.next item)) = (draft.next item >>= (·.next option)) := by
  cases option with
  | format value =>
    cases item with
    | format _ => exact absurd rfl hother
    | level value' =>
      simp only [Draft.next]
      cases Request.levelOf value' <;> rfl
    | name path =>
      obtain ⟨_ | _, _ | _, _, _⟩ := draft <;> rfl
  | level value =>
    obtain ⟨n, hn⟩ := hproper
    have hlevel : Request.levelOf value = .ok (.single n) :=
      Request.levelOf_eq_ok_iff.mpr ⟨n, hn, rfl⟩
    cases item with
    | format value' =>
      simp only [Draft.next, hlevel]
      rfl
    | level _ => exact absurd rfl hother
    | name path =>
      simp only [Draft.next, hlevel]
      obtain ⟨_ | _, _ | _, _, _⟩ := draft <;> rfl
  | name _ => cases hoption

/-- **A proper option is moved behind other items**, with the same outcome. -/
theorem Draft.foldlM_next_comm {option : ArgumentItem} (hproper : option.IsProper)
    (hoption : option.flag?.isSome) {items : List ArgumentItem}
    (hother : ∀ item ∈ items, item.flag? ≠ option.flag?) (draft : Draft) :
    (option :: items).foldlM Draft.next draft = (items ++ [option]).foldlM Draft.next draft := by
  induction items generalizing draft with
  | nil => rfl
  | cons item items ih =>
    obtain ⟨hitem, hitems⟩ := List.forall_mem_cons.mp hother
    calc (option :: item :: items).foldlM Draft.next draft
        = (draft.next option >>= (·.next item)) >>= items.foldlM Draft.next := by
          rw [List.foldlM_cons, bind_assoc]
          rfl
      _ = (draft.next item >>= (·.next option)) >>= items.foldlM Draft.next := by
          rw [next_comm hproper hoption hitem]
      _ = draft.next item >>= (option :: items).foldlM Draft.next := by
          rw [bind_assoc]
          rfl
      _ = (item :: items ++ [option]).foldlM Draft.next draft := by
          rw [List.cons_append, List.foldlM_cons]
          exact bind_congr fun draft' => ih hitems draft'

/-- **The arguments are answered by the grammar**, and where the options stand makes no
difference: a proper option may be moved past items that are no such option, whatever comes
after them. -/
theorem Request.parse_grammar :
    (∀ arguments result, parse arguments = result ↔ ReadsArguments arguments result)
      ∧ ∀ (before passed : List ArgumentItem) (option : ArgumentItem) (rest : List String),
        NamesPlain (before ++ passed) → option.IsProper → option.flag?.isSome →
        (∀ item ∈ passed, item.flag? ≠ option.flag?) →
        parse ((before ++ option :: passed).flatMap spelling ++ rest)
          = parse ((before ++ (passed ++ [option])).flatMap spelling ++ rest) := by
  refine ⟨fun arguments result => ⟨?_, fun h => h.parse_eq⟩, ?_⟩
  · rintro rfl
    obtain ⟨items, rest, result, hreads⟩ := areItems_nil.exists_items arguments
    have h : ReadsArguments arguments result := ⟨items, rest, hreads⟩
    rwa [h.parse_eq]
  · intro before passed option rest hplain hproper hoption hother
    have hplain' : ∀ items : List ArgumentItem,
        (∀ item ∈ items, item ∈ before ++ passed ∨ item = option) → NamesPlain items := by
      intro items hitems path hpath
      rcases hitems _ hpath with hmem | rfl
      · exact hplain path hmem
      · cases hoption
    have hfirst : NamesPlain (before ++ option :: passed) := by
      refine hplain' _ fun item hitem => ?_
      rw [List.mem_append, List.mem_cons] at hitem
      exact hitem.elim (fun h => .inl (List.mem_append_left passed h))
        fun h => h.symm.imp_left (List.mem_append_right before)
    have hlast : NamesPlain (before ++ (passed ++ [option])) := by
      refine hplain' _ fun item hitem => ?_
      rw [← List.append_assoc, List.mem_append, List.mem_singleton] at hitem
      exact hitem
    unfold parse
    rw [parseFrom_flatMap_spelling hfirst, parseFrom_flatMap_spelling hlast, List.foldlM_append,
      List.foldlM_append]
    congr 1
    exact bind_congr fun draft => Draft.foldlM_next_comm hproper hoption hother draft

/-- A level is moved behind both file names and behind a format that looks like an option. -/
theorem Request.parse_grammar_moved :
    (∃ n, DenotesWord "-1".toList n)
      ∧ parse ["-ovr", "-1", "in.tif", "-f", "-ovr", "out.shp"]
        = parse ["in.tif", "-f", "-ovr", "out.shp", "-ovr", "-1"]
      ∧ ReadsArguments ["in.tif", "-f", "-ovr", "out.shp", "-ovr", "-1"]
        (.ok (.convert ⟨"in.tif", "out.shp", some "-ovr", .single (-1)⟩)) := by
  have hword : ∃ n, DenotesWord "-1".toList n :=
    ⟨-1, signedWord32?_trimBlank_eq_some_iff.mp (by decide)⟩
  refine ⟨hword, ?_, (parse_grammar.1 _ _).mp (by decide)⟩
  refine parse_grammar.2 [] [.name "in.tif", .format "-ovr", .name "out.shp"] (.level "-1") []
    ?_ hword rfl ?_
  · simp [NamesPlain]
  · simp [flag?]

end BlockExtent
