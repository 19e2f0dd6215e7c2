import BlockExtent.Number.FloatStyle
import BlockExtent.Number.Literal
import BlockExtent.Proofs.Number.Interval

/-!
# Number text reads back

The text of a finite number is a literal, and reading the literal rounds to the
number that was written.  This holds for every style, since styles only differ in
how the same decimal is written.

## Main definitions

* `IsDigits` — a text of digits.
* `StopsNumber` — what may follow a number.
* `padded` — digits with zeros in front of them.
* `pointed` — digits with a point among them, if there are any behind it.
* `Denotes` — what is asked of the text of a decimal.

## Main results

* `readMagnitude?_pointed`, `Literal.read?_signed` — digits, and the sign in front of them.
* `FloatStyle.denotes_decimalText` — the text of a decimal is read as its value.
* `FloatStyle.read?_text` — the text of a finite number is read as the number.
-/

namespace BlockExtent

open Binary64

/-! ### Digits -/

/-- A text of digits, of which there is one. -/
structure IsDigits (text : List Char) : Prop where
  ne_nil : text ≠ []
  isDigit : ∀ c ∈ text, c.isDigit = true

/-- What may follow a number: nothing that would be read as a part of it. -/
def StopsNumber (rest : List Char) : Prop :=
  ∀ c ∈ rest.head?, c.isDigit = false ∧ c ≠ '.' ∧ c ≠ 'e' ∧ c ≠ 'E'

theorem isDigits_toDigits (n : ℕ) : IsDigits (Nat.toDigits 10 n) where
  ne_nil := Nat.toDigits_ne_nil
  isDigit _ hc := Nat.isDigit_of_mem_toDigits (by decide) (by decide) hc

theorem isDigits_zero : IsDigits ['0'] := isDigits_toDigits 0

/-- The digits of a positive number do not begin with zero. -/
theorem head?_toDigits_ne_zero {n : ℕ} (hn : 0 < n) :
    (Nat.toDigits 10 n).head? ≠ some '0' := by
  induction n using Nat.strongRecOn with
  | ind n ih =>
    by_cases hlt : n < 10
    · rw [Nat.toDigits_of_lt_base hlt, List.head?_cons]
      intro h
      have := Nat.digitChar_eq_zero.mp (Option.some.inj h)
      omega
    · have hpos : 0 < n / 10 := Nat.div_pos (by omega) (by decide)
      rw [Nat.toDigits_of_base_le (by decide) (by omega),
        List.head?_append_of_ne_nil _ Nat.toDigits_ne_nil]
      exact ih (n / 10) (by omega) hpos

/-- Digits with zeros in front of them, so that there are more of them than places. -/
def padded (digits : List Char) (places : ℕ) : List Char :=
  List.replicate (places + 1 - digits.length) '0' ++ digits

section Padded

variable (digits : List Char) (places : ℕ)

theorem length_padded : (padded digits places).length = max (places + 1) digits.length := by
  unfold padded
  rw [List.length_append, List.length_replicate]
  omega

/-- Zeros in front of digits do not count. -/
theorem ofDigitChars_padded :
    Nat.ofDigitChars 10 (padded digits places) 0 = Nat.ofDigitChars 10 digits 0 := by
  unfold padded
  rw [Nat.ofDigitChars_append, Nat.ofDigitChars_replicate_zero, Nat.mul_zero]

/-- There are as many digits behind the point as places. -/
theorem length_drop_padded :
    ((padded digits places).drop ((padded digits places).length - places)).length = places := by
  rw [List.length_drop, length_padded]
  omega

variable {digits} (h : IsDigits digits)
include h

theorem isDigits_padded : IsDigits (padded digits places) where
  ne_nil := by
    intro hnil
    exact h.ne_nil (List.append_eq_nil_iff.mp hnil).2
  isDigit := by
    intro c hc
    rcases List.mem_append.mp hc with hzero | htext
    · rw [List.eq_of_mem_replicate hzero]
      rfl
    · exact h.isDigit c htext

/-- The digits in front of the point, of which there is one, and those behind it. -/
theorem isDigits_take_padded :
    IsDigits ((padded digits places).take ((padded digits places).length - places))
      ∧ ∀ c ∈ (padded digits places).drop ((padded digits places).length - places),
        c.isDigit = true := by
  have hpadded := isDigits_padded places h
  have hlength := length_padded digits places
  refine ⟨⟨?_, fun c hc => hpadded.isDigit c (List.mem_of_mem_take hc)⟩,
    fun c hc => hpadded.isDigit c (List.mem_of_mem_drop hc)⟩
  rw [← List.length_pos_iff, List.length_take]
  omega

end Padded

theorem readDigits?_append {digits rest : List Char} (h : IsDigits digits)
    (hrest : ∀ c ∈ rest.head?, c.isDigit = false) :
    readDigits? (digits ++ rest) = some (digits, rest) := by
  have hstop : rest.takeWhile Char.isDigit = [] ∧ rest.dropWhile Char.isDigit = rest := by
    cases rest with
    | nil => exact ⟨rfl, rfl⟩
    | cons c rest =>
      have hc := hrest c rfl
      rw [List.takeWhile_cons, List.dropWhile_cons, hc]
      exact ⟨rfl, rfl⟩
  unfold readDigits?
  dsimp only
  rw [List.takeWhile_append_of_pos h.isDigit, List.dropWhile_append_of_pos h.isDigit, hstop.1,
    hstop.2, List.append_nil, if_neg h.ne_nil]

theorem readFraction?_of_ne {rest : List Char} (h : ∀ c ∈ rest.head?, c ≠ '.') :
    readFraction? rest = some ([], rest) := by
  unfold readFraction?
  split
  · exact absurd rfl (h '.' rfl)
  · rfl

theorem readExponent?_of_ne {rest : List Char} (h : ∀ c ∈ rest.head?, c ≠ 'e' ∧ c ≠ 'E') :
    readExponent? rest = some (0, rest) := by
  unfold readExponent?
  split
  · rename_i c rest
    obtain ⟨he, hE⟩ := h c rfl
    rw [if_neg (by rintro (h | h) <;> contradiction)]
  · rfl

/-- An exponent with its sign, the sign of a positive one being optional. -/
theorem readExponent?_signed (plusSign : Bool) {exponent : ℤ} {digits rest : List Char}
    (hdigits : IsDigits digits) (hvalue : Nat.ofDigitChars 10 digits 0 = exponent.natAbs)
    (hrest : ∀ c ∈ rest.head?, c.isDigit = false) :
    readExponent? ('e' :: ((if exponent < 0 then ['-'] else if plusSign then ['+'] else [])
      ++ digits ++ rest)) = some (exponent, rest) := by
  have hread := readDigits?_append hdigits hrest
  unfold readExponent?
  dsimp only
  rw [if_pos (Or.inl rfl)]
  split_ifs with hneg hplus
  · simp only [List.cons_append, List.nil_append]
    rw [hread, Option.map_some, hvalue]
    congr 2
    omega
  · simp only [List.cons_append, List.nil_append]
    rw [hread, Option.map_some, hvalue]
    congr 2
    omega
  · rw [List.nil_append]
    -- a digit is no sign
    obtain ⟨c, cs, hcons⟩ := List.exists_cons_of_ne_nil hdigits.ne_nil
    have hc := hdigits.isDigit c (by rw [hcons]; exact List.mem_cons_self)
    split
    · rename_i rest' heq
      rw [hcons] at heq
      obtain ⟨rfl, -⟩ := List.cons.inj heq
      contradiction
    · rename_i rest' heq
      rw [hcons] at heq
      obtain ⟨rfl, -⟩ := List.cons.inj heq
      contradiction
    · rw [hread, Option.map_some, hvalue]
      congr 2
      omega

/-- Digits with a point among them, if there are any behind it. -/
def pointed (whole fraction : List Char) : List Char :=
  if fraction = [] then whole else whole ++ '.' :: fraction

/-- Digits with a point among them and what follows them are read. -/
theorem readMagnitude?_pointed {whole fraction tail rest : List Char} {exponent : ℤ}
    (hwhole : IsDigits whole) (hfraction : ∀ c ∈ fraction, c.isDigit = true)
    (htail : ∀ c ∈ tail.head?, c.isDigit = false ∧ c ≠ '.')
    (hexponent : readExponent? tail = some (exponent, rest)) :
    Literal.readMagnitude? (pointed whole fraction ++ tail)
      = some (⟨Nat.ofDigitChars 10 (whole ++ fraction) 0, exponent - fraction.length⟩, rest) := by
  unfold pointed Literal.readMagnitude?
  by_cases hnil : fraction = []
  · subst hnil
    rw [if_pos rfl, readDigits?_append hwhole fun c hc => (htail c hc).1]
    simp only [Option.bind_eq_bind, Option.bind_some]
    rw [readFraction?_of_ne fun c hc => (htail c hc).2, Option.bind_some, hexponent]
    rfl
  · have hpoint : readDigits? (whole ++ '.' :: (fraction ++ tail))
        = some (whole, '.' :: (fraction ++ tail)) := by
      refine readDigits?_append hwhole ?_
      rintro _ ⟨⟩
      rfl
    rw [if_neg hnil, List.append_assoc, List.cons_append, hpoint]
    simp only [Option.bind_eq_bind, Option.bind_some, readFraction?]
    rw [readDigits?_append ⟨hnil, hfraction⟩ fun c hc => (htail c hc).1, Option.bind_some,
      hexponent]
    rfl

/-! ### Signs -/

namespace Literal

variable {x : Float} {negative : Bool} {m : ℕ} {e : ℤ} {d : Decimal}

/-- A number is what a literal with its sign rounds to, when the decimal is read as its
magnitude. -/
theorem nearest_eq_of_word (hx : ofFloat x = .finite negative m e)
    (hword : nearestWord d.ratio.1 d.ratio.2 = magnitudeWord m e) :
    (⟨negative, d⟩ : Literal).nearest = x := by
  obtain ⟨-, hbits⟩ := eq_ofBits_of_ofFloat hx
  unfold nearest Decimal.nearest
  dsimp only
  rw [hword, hbits]
  cases negative with
  | true => rfl
  | false => rw [if_neg Bool.false_ne_true, if_neg Bool.false_ne_true, Nat.zero_add]

/-- Zero is read as zero. -/
theorem nearestWord_of_toRat_eq_zero (hcanonical : IsCanonical 0 e) (hd : d.toRat = 0) :
    nearestWord d.ratio.1 d.ratio.2 = magnitudeWord 0 e := by
  have hcoefficient : d.coefficient = 0 := by
    have hten : (10 : ℚ) ^ d.exponent ≠ 0 := by positivity
    simpa [Decimal.toRat, hten] using hd
  -- zero has the smallest exponent, so all bits of its word are clear
  have hexponent : e = -1074 := hcanonical.normal.resolve_right (by decide)
  unfold Decimal.ratio nearestWord magnitudeWord
  rw [hcoefficient, Nat.zero_mul, if_pos rfl, hexponent]
  rfl

/-- A sign in front of digits is that of the literal, since a digit is no sign. -/
theorem read?_signed (negative : Bool) {text rest : List Char}
    (hbegins : ∃ c ∈ text.head?, c.isDigit = true) (hread : readMagnitude? text = some (d, rest)) :
    read? (if negative then '-' :: text else text) = some (⟨negative, d⟩, rest) := by
  cases negative with
  | true =>
    rw [if_pos rfl]
    simp only [read?, hread, Option.map_some]
  | false =>
    rw [if_neg Bool.false_ne_true]
    obtain ⟨c, hc, hdigit⟩ := hbegins
    unfold read?
    split
    · cases hc
      contradiction
    · rw [hread]
      rfl

end Literal

/-! ### Decimals -/

/-- What is asked of the text of a decimal.  It begins with digits, the first of
which is zero only if it is the only one, and it is read as the value of the
decimal, whatever follows. -/
structure Denotes (text : List Char) (d : Decimal) : Prop where
  begins : ∃ whole tail, text = whole ++ tail ∧ IsDigits whole
    ∧ (whole.head? = some '0' → whole.length = 1) ∧ ∃ c ∈ tail.head?, c.isDigit = false
  reads : ∀ rest, StopsNumber rest →
    ∃ d', Literal.readMagnitude? (text ++ rest) = some (d', rest) ∧ d'.toRat = d.toRat

/-- Digits with a point among them. -/
private theorem denotes_pointed (whole fraction : List Char) {d : Decimal}
    (hwhole : IsDigits whole) (hfraction : IsDigits fraction)
    (hzero : whole.head? = some '0' → whole.length = 1)
    (hvalue : Decimal.toRat ⟨Nat.ofDigitChars 10 (whole ++ fraction) 0, -fraction.length⟩
      = d.toRat) :
    Denotes (whole ++ '.' :: fraction) d where
  begins := ⟨whole, '.' :: fraction, rfl, hwhole, hzero, '.', rfl, rfl⟩
  reads := by
    intro rest hrest
    have hread := readMagnitude?_pointed hwhole hfraction.isDigit
      (fun c hc => ⟨(hrest c hc).1, (hrest c hc).2.1⟩)
      (readExponent?_of_ne fun c hc => (hrest c hc).2.2)
    rw [pointed, if_neg hfraction.ne_nil, zero_sub] at hread
    exact ⟨_, hread, hvalue⟩

namespace FloatStyle

/-- A whole number times a power of ten, with a zero after the point. -/
private theorem denotes_plainText_of_nonneg {d : Decimal} (hpos : 0 < d.coefficient)
    (hexp : 0 ≤ d.exponent) : Denotes (plainText d) d := by
  have hdigits := isDigits_toDigits d.coefficient
  unfold plainText
  dsimp only
  rw [if_pos hexp]
  refine denotes_pointed (_ ++ _) ['0'] ?_ isDigits_zero ?_ ?_
  · refine ⟨?_, ?_⟩
    · intro hnil
      exact hdigits.ne_nil (List.append_eq_nil_iff.mp hnil).1
    · intro c hc
      rcases List.mem_append.mp hc with htext | hzero
      · exact hdigits.isDigit c htext
      · rw [List.eq_of_mem_replicate hzero]
        rfl
  · intro hhead
    rw [List.head?_append_of_ne_nil _ hdigits.ne_nil] at hhead
    exact absurd hhead (head?_toDigits_ne_zero hpos)
  · obtain ⟨k, hk⟩ := Int.eq_ofNat_of_zero_le hexp
    have hten : Nat.ofDigitChars 10 (Nat.toDigits 10 d.coefficient
        ++ List.replicate d.exponent.toNat '0' ++ ['0']) 0 = 10 * (10 ^ k * d.coefficient) := by
      rw [Nat.ofDigitChars_append, Nat.ofDigitChars_append, Nat.ofDigitChars_ten_toDigits,
        Nat.ofDigitChars_replicate_zero, hk, Nat.ofDigitChars_cons, Nat.ofDigitChars_nil]
      rfl
    unfold Decimal.toRat
    rw [hten, hk]
    push_cast
    rw [List.length_singleton, Nat.cast_one, zpow_neg_one, zpow_natCast]
    field_simp

/-- Digits with the point among or in front of them. -/
private theorem denotes_plainText_of_neg {d : Decimal} (hpos : 0 < d.coefficient)
    (hexp : ¬ 0 ≤ d.exponent) : Denotes (plainText d) d := by
  have hdigits := isDigits_toDigits d.coefficient
  have hhead := head?_toDigits_ne_zero hpos
  have hplaces : 0 < (-d.exponent).toNat := by omega
  have hexponent : d.exponent = -((-d.exponent).toNat : ℤ) := by omega
  have hcoefficient := Nat.ofDigitChars_ten_toDigits (n := d.coefficient)
  unfold plainText
  dsimp only
  rw [if_neg hexp]
  generalize (-d.exponent).toNat = places at hplaces hexponent
  generalize Nat.toDigits 10 d.coefficient = digits at hdigits hhead hcoefficient
  change Denotes ((padded digits places).take ((padded digits places).length - places)
    ++ '.' :: (padded digits places).drop ((padded digits places).length - places)) d
  obtain ⟨hwhole, hfraction⟩ := isDigits_take_padded places hdigits
  have hlength := length_drop_padded digits places
  refine denotes_pointed _ _ hwhole ⟨?_, hfraction⟩ ?_ ?_
  · rw [← List.length_pos_iff, hlength]
    exact hplaces
  · intro hzero
    rw [List.length_take, length_padded]
    -- without padding the first digit is the first one of the coefficient
    rcases Nat.lt_or_ge places digits.length with hlong | hshort
    · rw [length_padded, List.head?_take, if_neg (by omega), padded, Nat.sub_eq_zero_of_le hlong,
        List.replicate_zero, List.nil_append] at hzero
      exact absurd hzero hhead
    · omega
  · unfold Decimal.toRat
    rw [List.take_append_drop, ofDigitChars_padded, hcoefficient, hlength, hexponent]

/-- One digit in front of the point, if there is a point, and an exponent. -/
private theorem denotes_exponent (plusSign : Bool) {c : Char} {cs : List Char} {d : Decimal}
    {leading : ℤ} (hdigits : IsDigits (c :: cs))
    (hcoefficient : Nat.ofDigitChars 10 (c :: cs) 0 = d.coefficient)
    (hleading : leading = d.exponent + ((c :: cs).length : ℤ) - 1) :
    Denotes (pointed [c] cs ++ 'e' ::
      ((if leading < 0 then ['-'] else if plusSign then ['+'] else [])
        ++ Nat.toDigits 10 leading.natAbs)) d := by
  obtain ⟨hc, hcs⟩ := List.forall_mem_cons.mp hdigits.isDigit
  have hfirst : IsDigits [c] := ⟨List.cons_ne_nil c [], List.forall_mem_singleton.mpr hc⟩
  constructor
  · -- the first digit is followed by the point or the exponent, and by no other digit
    generalize (if leading < 0 then ['-'] else if plusSign then ['+'] else [])
      ++ Nat.toDigits 10 leading.natAbs = tail
    refine ⟨[c], (if cs = [] then [] else '.' :: cs) ++ 'e' :: tail, ?_, hfirst, fun _ => rfl, ?_⟩
    · unfold pointed
      split <;> rfl
    · split
      · exact ⟨'e', rfl, rfl⟩
      · exact ⟨'.', rfl, rfl⟩
  · intro rest hrest
    have hexponent := readExponent?_signed plusSign (isDigits_toDigits leading.natAbs)
      Nat.ofDigitChars_ten_toDigits fun a ha => (hrest a ha).1
    refine ⟨⟨Nat.ofDigitChars 10 ([c] ++ cs) 0, leading - cs.length⟩, ?_, ?_⟩
    · rw [List.append_assoc]
      exact readMagnitude?_pointed hfirst hcs (by rintro _ ⟨⟩; decide) hexponent
    · rw [List.singleton_append, hcoefficient]
      unfold Decimal.toRat
      congr 2
      rw [hleading, List.length_cons]
      push_cast
      ring

private theorem denotes_scientificText (plusSign : Bool) {d : Decimal} :
    Denotes (scientificText plusSign d) d := by
  have hdigits := isDigits_toDigits d.coefficient
  have hcoefficient := Nat.ofDigitChars_ten_toDigits (n := d.coefficient)
  unfold scientificText
  dsimp only
  generalize Nat.toDigits 10 d.coefficient = digits at hdigits hcoefficient
  obtain ⟨c, cs, rfl⟩ := List.exists_cons_of_ne_nil hdigits.ne_nil
  have hdenotes := denotes_exponent plusSign hdigits hcoefficient rfl
  cases cs with
  | nil => exact hdenotes
  | cons a as => exact hdenotes

/-- **The text of a decimal is read as its value.** -/
theorem denotes_decimalText (style : FloatStyle) {d : Decimal} (hpos : 0 < d.coefficient) :
    Denotes (style.decimalText d) d := by
  unfold decimalText
  dsimp only
  split
  · by_cases hexp : 0 ≤ d.exponent
    · exact denotes_plainText_of_nonneg hpos hexp
    · exact denotes_plainText_of_neg hpos hexp
  · exact denotes_scientificText _

/-- The text of zero. -/
theorem denotes_zero : Denotes ['0', '.', '0'] ⟨0, 0⟩ := by
  refine denotes_pointed ['0'] ['0'] isDigits_zero isDigits_zero (fun _ => rfl) ?_
  simp [Decimal.toRat, Nat.ofDigitChars_cons]

/-! ### Numbers -/

/-- The text of a finite number is a sign and the text of a decimal that is read as
the magnitude of the number. -/
theorem text_denotes (style : FloatStyle) (negative : Bool) {m : ℕ} {e : ℤ}
    (hcanonical : IsCanonical m e) :
    ∃ magnitude d, style.text negative m e = (if negative then '-' :: magnitude else magnitude)
      ∧ Denotes magnitude d
      ∧ ∀ d' : Decimal, d'.toRat = d.toRat →
        nearestWord d'.ratio.1 d'.ratio.2 = magnitudeWord m e := by
  by_cases hzero : m = 0
  · subst hzero
    refine ⟨['0', '.', '0'], ⟨0, 0⟩, ?_, denotes_zero, ?_⟩
    · unfold text
      rw [if_pos rfl]
    · intro d' hd'
      refine Literal.nearestWord_of_toRat_eq_zero hcanonical (hd'.trans ?_)
      simp [Decimal.toRat]
  · have hpos := Nat.pos_of_ne_zero hzero
    refine ⟨style.decimalText (shortestDecimal style.tie m e), _, ?_,
      denotes_decimalText style
        (coefficient_shortestDecimal_pos style.tie hcanonical.mantissa_lt hpos), ?_⟩
    · unfold text
      rw [if_neg hzero]
    · intro d' hd'
      exact nearestWord_shortestDecimal style.tie hcanonical hpos hd'

/-- **The text of a finite number is read as the number**, its sign included,
whatever follows the text. -/
theorem read?_text (style : FloatStyle) {x : Float} {negative : Bool} {m : ℕ} {e : ℤ}
    (hx : ofFloat x = .finite negative m e) {rest : List Char} (hrest : StopsNumber rest) :
    ∃ l, Literal.read? (style.text negative m e ++ rest) = some (l, rest) ∧ l.nearest = x := by
  obtain ⟨hcanonical, -⟩ := eq_ofBits_of_ofFloat hx
  obtain ⟨magnitude, d, htext, hdenotes, hnearest⟩ := text_denotes style negative hcanonical
  obtain ⟨d', hread, hvalue⟩ := hdenotes.reads rest hrest
  refine ⟨⟨negative, d'⟩, ?_, Literal.nearest_eq_of_word hx (hnearest d' hvalue)⟩
  -- the text begins with a digit
  obtain ⟨whole, tail, hsplit, hwhole, -, -⟩ := hdenotes.begins
  obtain ⟨c, cs, rfl⟩ := List.exists_cons_of_ne_nil hwhole.ne_nil
  have hbegins : ∃ a ∈ (magnitude ++ rest).head?, a.isDigit = true :=
    ⟨c, by rw [hsplit]; rfl, hwhole.isDigit c List.mem_cons_self⟩
  have hsigned : (if negative then '-' :: magnitude else magnitude) ++ rest
      = if negative then '-' :: (magnitude ++ rest) else magnitude ++ rest := by
    cases negative <;> rfl
  rw [htext, hsigned]
  exact Literal.read?_signed negative hbegins hread

end FloatStyle

end BlockExtent
