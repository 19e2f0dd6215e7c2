import BlockExtent.Number.General
import BlockExtent.Proofs.Number.Literal
import BlockExtent.Proofs.Number.Significant
import BlockExtent.Proofs.Number.Spacing

/-!
# General number text reads back

The text of a number with so many significant digits is a literal, in either notation.  Zeros
that are dropped behind the point do not change what it stands for, which is the number rounded
to these digits.  With eighteen of them it is nearer to the number than to any other.

## Main definitions

* `ReadsAs` — what is asked of the text of a number without its sign.

## Main results

* `withoutFinalZeros_pointed` — the zeros that are dropped.
* `generalMagnitude_cases` — what a positive number is written with.
* `readsAs_generalMagnitude` — **the text of a positive number is read as the number rounded to
  its digits.**
* `ne_separator_of_mem_generalText` — numbers are written without blanks and commas.
* `generalText_singlesOut` — **the text of a finite number is nearer to it than to any other.**
* `readNumber?_generalText` — **the text of a number is read as the number.**
-/

namespace BlockExtent

open Binary64

/-! ### Dropping zeros -/

/-- What is left of digits when some at their end are dropped is digits. -/
theorem isDigit_of_mem_dropTrailing {digits : List Char}
    (hdigits : ∀ c ∈ digits, c.isDigit = true) (p : Char → Bool) :
    ∀ c ∈ dropTrailing p digits, c.isDigit = true := by
  obtain ⟨dropped, hsplit, -⟩ := exists_dropTrailing_append p digits
  intro c hc
  refine hdigits c ?_
  rw [hsplit]
  exact List.mem_append_left dropped hc

/-- A digit is no point. -/
theorem ne_point_of_isDigit {c : Char} (h : c.isDigit = true) : (c == '.') = false := by
  rw [beq_eq_false_iff_ne]
  rintro rfl
  contradiction

/-- **The zeros at the end of a fraction are dropped**, and the point with the last of them. -/
theorem withoutFinalZeros_pointed {whole fraction : List Char} (hwhole : IsDigits whole)
    (hfraction : ∀ c ∈ fraction, c.isDigit = true) :
    withoutFinalZeros (pointed whole fraction)
      = pointed whole (dropTrailing (· == '0') fraction) := by
  have hlast : ∀ c ∈ whole.getLast?, (c == '.') = false := fun c hc =>
    ne_point_of_isDigit (hwhole.isDigit c (List.mem_of_getLast? hc))
  have hrest := isDigit_of_mem_dropTrailing hfraction (· == '0')
  unfold withoutFinalZeros pointed
  by_cases hnil : fraction = []
  · subst hnil
    have hcontains : ¬ whole.contains '.' = true := by
      intro hmem
      exact absurd (hwhole.isDigit '.' (List.contains_iff_mem.mp hmem)) (by decide)
    rw [if_pos rfl, if_neg hcontains, dropTrailing_nil, if_pos rfl]
  · have hcontains : (whole ++ '.' :: fraction).contains '.' = true := by simp
    have hzeros : dropTrailing (· == '0') (whole ++ '.' :: fraction)
        = whole ++ '.' :: dropTrailing (· == '0') fraction := by
      rw [dropTrailing_append, dropTrailing_cons_of_neg _ (by decide),
        if_neg (List.cons_ne_nil _ _)]
    rw [if_neg hnil, if_pos hcontains, hzeros]
    generalize dropTrailing (· == '0') fraction = rest at hrest
    by_cases hrestnil : rest = []
    · -- nothing is left behind the point
      subst hrestnil
      rw [if_pos rfl, dropTrailing_append, if_pos (by rfl), dropTrailing_eq_self _ hlast]
    · rw [if_neg hrestnil]
      refine dropTrailing_eq_self _ fun c hc => ne_point_of_isDigit (hrest c ?_)
      rw [List.getLast?_append_of_ne_nil _ (List.cons_ne_nil _ _),
        List.getLast?_cons_of_ne_nil hrestnil] at hc
      exact List.mem_of_getLast? hc

/-- Zeros at the end of a fraction do not change what the digits stand for. -/
theorem toRat_dropTrailing (whole fraction : List Char) (exponent : ℤ) :
    Decimal.toRat
        ⟨Nat.ofDigitChars 10 (whole ++ dropTrailing (· == '0') fraction) 0,
          exponent - (dropTrailing (· == '0') fraction).length⟩
      = Decimal.toRat
        ⟨Nat.ofDigitChars 10 (whole ++ fraction) 0, exponent - fraction.length⟩ := by
  obtain ⟨zeros, hsplit, hzeros⟩ := exists_dropTrailing_append (· == '0') fraction
  have hreplicate : zeros = List.replicate zeros.length '0' :=
    List.eq_replicate_of_mem fun c hc => beq_iff_eq.mp (hzeros c hc)
  generalize dropTrailing (· == '0') fraction = kept at hsplit
  rw [hsplit, ← List.append_assoc, hreplicate, List.length_append, List.length_replicate]
  generalize whole ++ kept = digits
  rw [Nat.ofDigitChars_append, Nat.ofDigitChars_replicate_zero]
  unfold Decimal.toRat
  dsimp only
  push_cast
  rw [mul_comm ((10 : ℚ) ^ zeros.length), mul_assoc, ← zpow_natCast (10 : ℚ) zeros.length,
    ← zpow_add₀ (by norm_num)]
  congr 2
  ring

/-! ### The two notations -/

/-- What is asked of the text of a number without its sign.  It begins with a digit, consists of
what numbers are written with, and is read as the value of a decimal, whatever follows. -/
structure ReadsAs (text : List Char) (d : Decimal) : Prop where
  begins : ∃ c ∈ text.head?, c.isDigit = true
  chars : ∀ c ∈ text, c.isDigit = true ∨ c ∈ ['.', 'e', '+', '-']
  reads : ∀ rest, StopsNumber rest →
    ∃ d', Literal.readMagnitude? (text ++ rest) = some (d', rest) ∧ d'.toRat = d.toRat

/-- Such a text is read to its end, with a sign in front of it if there is one. -/
theorem ReadsAs.read?_signed {text : List Char} {d : Decimal} (h : ReadsAs text d)
    (negative : Bool) :
    ∃ d', Literal.read? (if negative then '-' :: text else text) = some (⟨negative, d'⟩, [])
      ∧ d'.toRat = d.toRat := by
  have hend : StopsNumber [] := by rintro c ⟨⟩
  obtain ⟨d', hread, hvalue⟩ := h.reads [] hend
  rw [List.append_nil] at hread
  exact ⟨d', Literal.read?_signed negative h.begins hread, hvalue⟩

/-- What counts is the value of the decimal. -/
theorem ReadsAs.congr {text : List Char} {d d' : Decimal} (h : ReadsAs text d)
    (hvalue : d.toRat = d'.toRat) : ReadsAs text d' :=
  ⟨h.begins, h.chars, fun rest hrest => hvalue ▸ h.reads rest hrest⟩

section Notations

variable {whole fraction : List Char}

theorem head?_pointed (hwhole : IsDigits whole) (fraction : List Char) :
    ∃ c ∈ (pointed whole fraction).head?, c.isDigit = true := by
  obtain ⟨c, cs, rfl⟩ := List.exists_cons_of_ne_nil hwhole.ne_nil
  refine ⟨c, ?_, hwhole.isDigit c List.mem_cons_self⟩
  unfold pointed
  split <;> rfl

theorem isDigit_or_mem_of_mem_pointed (hwhole : IsDigits whole)
    (hfraction : ∀ c ∈ fraction, c.isDigit = true) :
    ∀ c ∈ pointed whole fraction, c.isDigit = true ∨ c ∈ ['.', 'e', '+', '-'] := by
  intro c hc
  unfold pointed at hc
  split at hc
  · exact .inl (hwhole.isDigit c hc)
  · rcases List.mem_append.mp hc with hc | hc
    · exact .inl (hwhole.isDigit c hc)
    · rcases List.mem_cons.mp hc with rfl | hc
      · exact .inr List.mem_cons_self
      · exact .inl (hfraction c hc)

/-- Digits without the zeros at their end, and an exponent if there is one. -/
theorem readsAs_pointed (hwhole : IsDigits whole) (hfraction : ∀ c ∈ fraction, c.isDigit = true)
    {suffix : List Char} {exponent : ℤ}
    (hchars : ∀ c ∈ suffix, c.isDigit = true ∨ c ∈ ['.', 'e', '+', '-'])
    (hstops : ∀ rest, StopsNumber rest →
      ∀ c ∈ (suffix ++ rest).head?, c.isDigit = false ∧ c ≠ '.')
    (hreads : ∀ rest, StopsNumber rest →
      readExponent? (suffix ++ rest) = some (exponent, rest)) :
    ReadsAs (withoutFinalZeros (pointed whole fraction) ++ suffix)
      ⟨Nat.ofDigitChars 10 (whole ++ fraction) 0, exponent - fraction.length⟩ := by
  have hkept := isDigit_of_mem_dropTrailing hfraction (· == '0')
  rw [withoutFinalZeros_pointed hwhole hfraction]
  refine ⟨?_, ?_, ?_⟩
  · obtain ⟨c, hc, hdigit⟩ := head?_pointed hwhole (dropTrailing (· == '0') fraction)
    refine ⟨c, ?_, hdigit⟩
    rw [List.head?_append, Option.mem_def.mp hc]
    rfl
  · intro c hc
    rcases List.mem_append.mp hc with hc | hc
    · exact isDigit_or_mem_of_mem_pointed hwhole hkept c hc
    · exact hchars c hc
  · intro rest hrest
    refine ⟨_, ?_, toRat_dropTrailing whole fraction exponent⟩
    rw [List.append_assoc]
    exact readMagnitude?_pointed hwhole hkept (hstops rest hrest) (hreads rest hrest)

/-- An exponent with its sign and at least two digits is read. -/
theorem readExponent?_exponentText (exponent : ℤ) {rest : List Char}
    (hrest : ∀ c ∈ rest.head?, c.isDigit = false) :
    readExponent? ('e' :: exponentText exponent ++ rest) = some (exponent, rest) := by
  have hdigits := isDigits_padded 1 (isDigits_toDigits exponent.natAbs)
  have hvalue : Nat.ofDigitChars 10 (padded (Nat.toDigits 10 exponent.natAbs) 1) 0
      = exponent.natAbs := by
    rw [ofDigitChars_padded, Nat.ofDigitChars_ten_toDigits]
  have hread := readExponent?_signed true hdigits hvalue hrest
  have hsign : (if exponent < 0 then ['-'] else if true then ['+'] else [])
      = [if exponent < 0 then '-' else '+'] := by
    split <;> rfl
  rw [hsign] at hread
  exact hread

theorem isDigit_or_mem_of_mem_exponentText (exponent : ℤ) :
    ∀ c ∈ 'e' :: exponentText exponent, c.isDigit = true ∨ c ∈ ['.', 'e', '+', '-'] := by
  have hdigits := isDigits_padded 1 (isDigits_toDigits exponent.natAbs)
  refine List.forall_mem_cons.mpr ⟨.inr (by decide), List.forall_mem_cons.mpr ⟨.inr ?_, ?_⟩⟩
  · split <;> decide
  · exact fun c hc => .inl (hdigits.isDigit c hc)

/-- Scientific notation has a point behind the first digit. -/
theorem exists_scientificMantissa (digits : ℕ) :
    ∃ c cs, Nat.toDigits 10 digits = c :: cs ∧ scientificMantissa digits = pointed [c] cs := by
  obtain ⟨c, cs, hdigits⟩ := List.exists_cons_of_ne_nil (isDigits_toDigits digits).ne_nil
  refine ⟨c, cs, hdigits, ?_⟩
  unfold scientificMantissa
  rw [hdigits]
  cases cs <;> rfl

/-- **Scientific notation is read** as its digits and its exponent. -/
theorem readsAs_scientific (digits : ℕ) (leading : ℤ) :
    ReadsAs (withoutFinalZeros (scientificMantissa digits) ++ 'e' :: exponentText leading)
      ⟨digits, leading - (digitCount digits - 1)⟩ := by
  obtain ⟨c, cs, hdigits, htext⟩ := exists_scientificMantissa digits
  have hisDigits := isDigits_toDigits digits
  have hvalue := Nat.ofDigitChars_ten_toDigits (n := digits)
  rw [hdigits] at hisDigits hvalue
  obtain ⟨hc, hcs⟩ := List.forall_mem_cons.mp hisDigits.isDigit
  have hreads := readsAs_pointed ⟨List.cons_ne_nil c [], List.forall_mem_singleton.mpr hc⟩ hcs
    (isDigit_or_mem_of_mem_exponentText leading)
    (by rintro rest - _ ⟨⟩; decide)
    (fun rest hrest => readExponent?_exponentText leading fun a ha => (hrest a ha).1)
  rw [List.singleton_append, hvalue] at hreads
  have hcount : (digitCount digits : ℤ) - 1 = cs.length := by
    unfold digitCount
    rw [hdigits, List.length_cons]
    push_cast
    ring
  rw [htext, hcount]
  exact hreads

/-- Plain notation has a point in front of the last places. -/
theorem fixedText_eq_pointed (units places : ℕ) :
    fixedText units places
      = pointed ((padded (Nat.toDigits 10 units) places).take
          ((padded (Nat.toDigits 10 units) places).length - places))
        ((padded (Nat.toDigits 10 units) places).drop
          ((padded (Nat.toDigits 10 units) places).length - places)) := by
  have hnil : (padded (Nat.toDigits 10 units) places).drop
      ((padded (Nat.toDigits 10 units) places).length - places) = [] ↔ places = 0 := by
    rw [← List.length_eq_zero_iff, length_drop_padded]
  unfold pointed
  simp only [hnil]
  rfl

/-- **Plain notation is read** as its units. -/
theorem readsAs_fixed (units places : ℕ) :
    ReadsAs (withoutFinalZeros (fixedText units places)) ⟨units, -places⟩ := by
  obtain ⟨hwhole, hfraction⟩ := isDigits_take_padded places (isDigits_toDigits units)
  have hreads := @readsAs_pointed _ _ hwhole hfraction [] 0 (by rintro c ⟨⟩)
    (fun rest hrest c hc => ⟨(hrest c hc).1, (hrest c hc).2.1⟩)
    fun rest hrest => readExponent?_of_ne fun c hc => (hrest c hc).2.2
  rw [List.append_nil, List.take_append_drop, ofDigitChars_padded, Nat.ofDigitChars_ten_toDigits,
    length_drop_padded, zero_sub] at hreads
  rw [fixedText_eq_pointed]
  exact hreads

end Notations

/-! ### Places in words -/

/-- A number of places, counted in a signed word and used as a position, is the same, or it is as
large in the word as it is by itself. -/
theorem indexWord_signedWord {n : ℤ} (hlow : 0 ≤ n) (hhigh : n < 2 ^ 32) :
    (indexWord (signedWord 32 n) : ℤ) = n
      ∨ 2 ^ 31 ≤ n ∧ (2 ^ 31 : ℤ) ≤ indexWord (signedWord 32 n) := by
  have hword : wordCount 32 = 2 ^ 32 := rfl
  have hlong : wordCount 64 = 2 ^ 64 := rfl
  by_cases hn : n < 2 ^ 31
  · left
    rw [signedWord_eq_self (by omega) (by omega), indexWord_of_nonneg hlow (by omega)]
  · right
    have hwrapped : signedWord 32 n = n - 2 ^ 32 := by
      unfold signedWord
      rw [hword, Int.bmod_def]
      omega
    unfold indexWord
    rw [hwrapped, hlong]
    omega

/-- Places that do not fit their word are more than a number has, so the value is the same with
the places that they become. -/
theorem toRat_roundToPlaces_indexWord (m : ℕ) {e n : ℤ} (he : -1074 ≤ e) (hlow : 0 ≤ n)
    (hhigh : n < 2 ^ 32) :
    Decimal.toRat ⟨roundToPlaces m e (indexWord (signedWord 32 n)), -indexWord (signedWord 32 n)⟩
      = Decimal.toRat ⟨roundToPlaces m e n, -n⟩ := by
  rcases indexWord_signedWord hlow hhigh with hsame | ⟨hn, hmany⟩
  · rw [hsame]
  · rw [toRat_roundToPlaces_of_le m (by omega) (by omega), toRat_roundToPlaces_of_le m hlow (by omega)]

/-! ### Numbers -/

section Magnitude

variable {m : ℕ} (hm : 0 < m) {e : ℤ} (he : -1074 ≤ e) {precision : ℕ} (hpositive : 0 < precision)
  (hprecision : precision < 2 ^ 31)
include hm he hpositive hprecision

/-- **What a number is written with**, in scientific and in plain notation.  Plain text may be
rounded to other units than those of the digits, but stands for the same value. -/
theorem generalMagnitude_cases :
    (((roundToDigits m e precision).2 < -4 ∨ (precision : ℤ) ≤ (roundToDigits m e precision).2)
      ∧ generalMagnitude m e precision
        = withoutFinalZeros (scientificMantissa (roundToDigits m e precision).1)
          ++ 'e' :: exponentText (roundToDigits m e precision).2)
    ∨ ((-4 ≤ (roundToDigits m e precision).2 ∧ (roundToDigits m e precision).2 < precision)
      ∧ ∃ units places, 0 < units
        ∧ generalMagnitude m e precision = withoutFinalZeros (fixedText units places)
        ∧ Decimal.toRat ⟨units, -places⟩ = Decimal.toRat ⟨(roundToDigits m e precision).1,
          (roundToDigits m e precision).2 - (precision - 1)⟩) := by
  have hlow := (isRounded_roundToDigits hm e hpositive).low
  have hplain := @roundToPlaces_roundToDigits m e precision hpositive
  have hcount : signedWord 32 precision = precision := by
    have hword : wordCount 32 = 2 ^ 32 := rfl
    exact signedWord_eq_self (by omega) (by omega)
  have hdigits : 0 < (roundToDigits m e precision).1 :=
    Nat.lt_of_lt_of_le (Nat.pow_pos (by decide)) hlow
  unfold generalMagnitude
  generalize roundToDigits m e precision = rounded at hdigits hplain
  obtain ⟨digits, leading⟩ := rounded
  dsimp only at hdigits hplain ⊢
  rw [hcount]
  by_cases houtside : leading < -4 ∨ (precision : ℤ) ≤ leading
  · left
    rw [if_pos houtside]
    exact ⟨houtside, rfl⟩
  · right
    rw [if_neg houtside]
    obtain ⟨hfrom, hto⟩ := not_or.mp houtside
    have hvalue := toRat_roundToPlaces_indexWord m he
      (show 0 ≤ (precision : ℤ) - 1 - leading by omega) (by omega)
    rw [hplain, neg_sub] at hvalue
    refine ⟨⟨not_lt.mp hfrom, not_le.mp hto⟩, _, _, ?_, rfl, hvalue⟩
    -- the value is positive
    rw [Nat.pos_iff_ne_zero]
    intro hzero
    rw [hzero] at hvalue
    have : (0 : ℚ) < digits * 10 ^ (leading - (precision - 1)) := by positivity
    simp only [Decimal.toRat, Nat.cast_zero, zero_mul] at hvalue
    exact this.ne hvalue

/-- **The text of a positive number is read as the number rounded to its digits**, whichever
notation it gets. -/
theorem readsAs_generalMagnitude :
    ReadsAs (generalMagnitude m e precision) ⟨(roundToDigits m e precision).1,
      (roundToDigits m e precision).2 - (precision - 1)⟩ := by
  rcases generalMagnitude_cases hm he hpositive hprecision with
    ⟨-, htext⟩ | ⟨-, units, places, -, htext, hvalue⟩
  · have hreads := readsAs_scientific (roundToDigits m e precision).1 (roundToDigits m e precision).2
    rw [(isRounded_roundToDigits hm e hpositive).digitCount_eq] at hreads
    rw [htext]
    exact hreads
  · rw [htext]
    exact (readsAs_fixed units places).congr hvalue

end Magnitude

/-- Zero is one digit. -/
theorem readsAs_zero : ReadsAs ['0'] ⟨0, 0⟩ := readsAs_fixed 0 0

/-- What is asked of the text of a finite number without its sign: it is read as a decimal
within half of the gap of the number, which rounds to the number. -/
theorem exists_readsAs {m : ℕ} {e : ℤ} (hcanonical : IsCanonical m e) {precision : ℕ}
    (hprecision : 18 ≤ precision) (hword : precision < 2 ^ 31) :
    ∃ d, ReadsAs (if m = 0 then ['0'] else generalMagnitude m e precision) d
      ∧ |d.toRat / 2 ^ e - m| < ReadingInterval.gapBelow m e
      ∧ ∀ d' : Decimal, d'.toRat = d.toRat →
        nearestWord d'.ratio.1 d'.ratio.2 = magnitudeWord m e := by
  by_cases hzero : m = 0
  · subst hzero
    have hvalue : Decimal.toRat ⟨0, 0⟩ = 0 := by simp [Decimal.toRat]
    refine ⟨⟨0, 0⟩, ?_, ?_, fun d' hd' => ?_⟩
    · rw [if_pos rfl]
      exact readsAs_zero
    · rw [hvalue]
      simp [ReadingInterval.gapBelow, narrowBelow]
    · exact Literal.nearestWord_of_toRat_eq_zero hcanonical (hd'.trans hvalue)
  · have hpos := Nat.pos_of_ne_zero hzero
    have hone : 0 < precision := by omega
    have hdistance := (isRounded_roundToDigits hpos e hone).near
    have hgrid : (10 : ℚ) ^ (decimalExponent m e - (precision - 1)) / 2
        ≤ 10 ^ (decimalExponent m e - 16) / 2 :=
      div_le_div_of_nonneg_right (zpow_le_zpow_right₀ (by norm_num) (by omega)) (by norm_num)
    have hnear := near_of_grid hcanonical.mantissa_lt (decimalExponent_bounds hpos e).1
      (hdistance.trans hgrid)
    rw [if_neg hzero]
    refine ⟨_, readsAs_generalMagnitude hpos hcanonical.le_exponent hone hword, hnear,
      fun d' hd' => nearestWord_of_holds hcanonical hpos ?_⟩
    rw [hd']
    exact ReadingInterval.holds_of_near hpos hnear

/-- Numbers are written without blanks and commas. -/
theorem ne_separator_of_mem_generalText (x : Float) {precision : ℕ}
    (hprecision : precision < 2 ^ 31) :
    ∀ c ∈ (generalText x precision).toList, c ≠ ' ' ∧ c ≠ ',' := by
  have hplain : ∀ c : Char, c.isDigit = true ∨ c ∈ ['.', 'e', '+', '-'] → c ≠ ' ' ∧ c ≠ ',' := by
    rintro c (hdigit | hmem)
    · constructor <;> (rintro rfl; exact absurd hdigit (by decide))
    · constructor <;> (rintro rfl; exact absurd hmem (by decide))
  unfold generalText
  split
  · simp
  · split <;> simp
  · rename_i negative m e hx
    obtain ⟨hcanonical, -⟩ := eq_ofBits_of_ofFloat hx
    have hmagnitude : ∀ c ∈ if m = 0 then ['0'] else generalMagnitude m e (max precision 1),
        c.isDigit = true ∨ c ∈ ['.', 'e', '+', '-'] := by
      split
      · exact readsAs_zero.chars
      · rename_i hzero
        exact (readsAs_generalMagnitude (Nat.pos_of_ne_zero hzero) hcanonical.le_exponent
          (Nat.lt_of_lt_of_le one_pos (le_max_right precision 1)) (by omega)).chars
    rw [String.toList_ofList]
    intro c hc
    refine hplain c ?_
    split at hc
    · rcases List.mem_cons.mp hc with rfl | hc
      · exact .inr (by decide)
      · exact hmagnitude c hc
    · exact hmagnitude c hc

/-- A finite number is written as its sign and its magnitude. -/
theorem toList_generalText {x : Float} {negative : Bool} {m : ℕ} {e : ℤ}
    (hx : ofFloat x = .finite negative m e) (precision : ℕ) :
    (generalText x precision).toList
      = if negative then '-' :: (if m = 0 then ['0'] else generalMagnitude m e (max precision 1))
        else if m = 0 then ['0'] else generalMagnitude m e (max precision 1) := by
  unfold generalText
  rw [hx]
  exact String.toList_ofList

section Text

variable {x : Float} {precision : ℕ} (hprecision : 18 ≤ precision) (hword : precision < 2 ^ 31)
include hprecision hword

/-- **The text of a finite number is a literal that is nearer to it than to any other**, and the
number is what the literal rounds to. -/
theorem generalText_singlesOut (hfinite : x.isFinite = true) :
    ∃ l, Literal.read? (generalText x precision).toList = some (l, []) ∧ l.SinglesOut x
      ∧ l.nearest = x := by
  obtain ⟨negative, m, e, hx⟩ := (isFinite_iff x).mp hfinite
  obtain ⟨hcanonical, -⟩ := eq_ofBits_of_ofFloat hx
  obtain ⟨d, hreads, hnear, hnearest⟩ := exists_readsAs hcanonical hprecision hword
  obtain ⟨d', hread, hvalue⟩ := hreads.read?_signed negative
  rw [← hvalue] at hnear
  refine ⟨⟨negative, d'⟩, ?_, Literal.singlesOut_of_near hx hnear,
    Literal.nearest_eq_of_word hx (hnearest d' hvalue)⟩
  rw [toList_generalText hx, max_eq_left (by omega)]
  exact hread

/-- **The text of a number is read as the number.** -/
theorem readNumber?_generalText (hnan : x.isNaN = false) :
    readNumber? (generalText x precision).toList = some x := by
  cases hx : ofFloat x with
  | nan => exact absurd ((isNaN_iff x).mpr hx) (by rw [hnan]; exact Bool.false_ne_true)
  | infinite negative =>
    have hbits := eq_ofBits_of_infinite hx
    unfold generalText
    rw [hx, hbits]
    cases negative <;> simp [readNumber?]
  | finite negative m e =>
    obtain ⟨l, hread, -, hnearest⟩ :=
      generalText_singlesOut hprecision hword ((isFinite_iff x).mpr ⟨negative, m, e, hx⟩)
    -- a literal is none of the words
    have hother : ∀ word, Literal.read? word = none →
        (generalText x precision).toList ≠ word := by
      rintro word hnone rfl
      rw [hread] at hnone
      cases hnone
    unfold readNumber?
    rw [if_neg (hother _ rfl), if_neg (hother _ rfl), if_neg (hother _ rfl), hread]
    exact congrArg some hnearest

end Text

end BlockExtent
