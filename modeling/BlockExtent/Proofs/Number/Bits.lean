import Mathlib
import BlockExtent.Number.Binary64

/-!
# The bits of binary64 numbers

The runtime's model of a `Float` is its word of bits, with one word for what is
no number.  Packing what a word is unpacked to gives the word back, so the bits
determine the number, and `Binary64` reads sign, mantissa and exponent off them.

## Main definitions

* `Binary64.magnitudeWord` — the word of `mantissa * 2 ^ exponent`.
* `Binary64.IsCanonical` — the mantissas and exponents that words are read as.
* `Binary64.signWord`, `Binary64.signOf` — a sign as a word and in the runtime's model.

## Main results

* `Binary64.ofBits_toBits` — a number is the one with its bits.
* `Binary64.beq_zero_iff` — which numbers are equal to zero.
* `Binary64.isFinite_iff` — which numbers have a mantissa and an exponent.
* `Binary64.isNaN_iff`, `Binary64.eq_ofBits_of_infinite` — what the other words are.
* `Binary64.eq_ofBits_of_ofFloat` — a finite number is the one with the word of
  its sign, mantissa and exponent.
* `Binary64.toNat_pack_finite`, `Binary64.unpack_of_ofFloat` — the runtime's model of a
  finite number is packed to that word and unpacked from it.
-/

namespace BlockExtent.Binary64

open Float.Model Float.Model.UnpackedFloat

/-! ### Packing and unpacking -/

/-- A word is put together from its sign, exponent and mantissa. -/
private theorem packComponents_fields (b : BitVec Format.binary64.numBits) :
    packComponents Format.binary64 (.ofBitVec (unpackSign b)) (unpackExponent b)
      (unpackMantissa b) = b := by
  have hsign : (Sign.ofBitVec (unpackSign b)).toBitVec = unpackSign b := by
    unfold Sign.ofBitVec
    have hlt := (unpackSign b).isLt
    by_cases h : unpackSign b = 0#1
    · rw [if_pos h, h]
      rfl
    · rw [if_neg h]
      apply BitVec.eq_of_toNat_eq
      have hne : (unpackSign b).toNat ≠ 0 := fun h0 =>
        h (BitVec.eq_of_toNat_eq (by simpa using h0))
      change 1 = _
      omega
  unfold packComponents
  rw [hsign]
  apply BitVec.eq_of_getLsbD_eq
  intro i hi
  simp only [unpackMantissa, unpackExponent, unpackSign, BitVec.getLsbD_append]
  simp
  grind

/-- Packing a number without an implied leading bit. -/
private theorem pack_subnormal {m : Nat} {e : Int} (s : Sign) (hpos : 0 < m)
    (hm : m < 2 ^ 52) (he : e = -1074) :
    UnpackedFloat.pack Format.binary64 (.finite s m e hpos)
      = packComponents Format.binary64 s 0 (BitVec.ofNat 52 m) := by
  subst he
  have hlog : m.log2 < 52 := (Nat.log2_lt (by omega)).mpr hm
  have hcount : ¬ m.log2 + 1 = Format.binary64.mantissaBits := by
    simp only [Format.mantissaBits]
    omega
  simp only [UnpackedFloat.pack]
  rw [if_neg (by decide), if_neg hcount]
  rfl

/-- Packing a number with an implied leading bit. -/
private theorem pack_normal {m : Nat} {e : Int} (s : Sign) (hpos : 0 < m)
    (hlow : 2 ^ 52 ≤ m) (hm : m < 2 ^ 53) (hle : -1074 ≤ e) (he : e ≤ 971) :
    UnpackedFloat.pack Format.binary64 (.finite s m e hpos)
      = packComponents Format.binary64 s (BitVec.ofNat 11 (e + 1075).toNat)
          (BitVec.ofNat 52 m) := by
  have hlog : m.log2 = 52 := by
    have hlt : m.log2 < 53 := (Nat.log2_lt (by omega)).mpr hm
    have hge : 52 ≤ m.log2 := (Nat.le_log2 (by omega)).mpr hlow
    omega
  have hcount : m.log2 + 1 = Format.binary64.mantissaBits := by
    simp only [Format.mantissaBits]
    omega
  have hbias : (e + (Format.binary64.exponentBias : Nat)
      + (Format.binary64.mantissaBitsWithoutImplicit : Nat)).toNat = (e + 1075).toNat := by
    change (e + ((1023 : Nat) : Int) + ((52 : Nat) : Int)).toNat = _
    omega
  simp only [UnpackedFloat.pack]
  rw [hbias, if_neg (by omega), if_pos hcount]

/-- Packing drops the leading bit that unpacking has added to a normal number. -/
private theorem pack_implied (s : Sign) {exponent : BitVec 11} (mantissa : BitVec 52)
    (hpos : 0 < (1#1 ++ mantissa).toNat) (hzero : exponent ≠ 0#11)
    (hmax : exponent ≠ BitVec.allOnes 11) :
    UnpackedFloat.pack Format.binary64
        (.finite s (1#1 ++ mantissa).toNat ((exponent.toNat : Int)
          - ((Format.binary64.exponentBias : Nat)
            + (Format.binary64.mantissaBitsWithoutImplicit : Nat))) hpos)
      = packComponents Format.binary64 s exponent mantissa := by
  have hmantissa : mantissa.toNat < 2 ^ 52 := mantissa.isLt
  have hexponent : exponent.toNat < 2 ^ 11 := exponent.isLt
  have hzero' : exponent.toNat ≠ 0 := fun h0 => hzero (BitVec.eq_of_toNat_eq (by rw [h0]; rfl))
  have hmax' : exponent.toNat ≠ 2047 := fun h0 => hmax (BitVec.eq_of_toNat_eq (by rw [h0]; rfl))
  have hsum : (1#1 ++ mantissa).toNat = 2 ^ 52 + mantissa.toNat := by
    rw [BitVec.toNat_append, ← Nat.shiftLeft_add_eq_or_of_lt mantissa.isLt]
    rfl
  have hbias : ((Format.binary64.exponentBias : Nat) : Int)
      + (Format.binary64.mantissaBitsWithoutImplicit : Nat) = 1075 := by decide
  have hlow : BitVec.ofNat 52 (1#1 ++ mantissa).toNat = mantissa := by
    apply BitVec.eq_of_toNat_eq
    rw [BitVec.toNat_ofNat, hsum]
    omega
  simp only [hbias]
  rw [pack_normal _ _ (by omega) (by omega) (by omega) (by omega), Int.sub_add_cancel,
    Int.toNat_natCast, BitVec.ofNat_toNat, BitVec.setWidth_eq, hlow]

/-- Packing undoes unpacking. -/
private theorem pack_unpack {b : BitVec Format.binary64.numBits}
    (hb : Format.binary64.Valid b) :
    UnpackedFloat.pack Format.binary64 (UnpackedFloat.unpack Format.binary64 b) = b := by
  have hparts := packComponents_fields b
  have hmantissa : (unpackMantissa b).toNat < 2 ^ 52 := (unpackMantissa b).isLt
  unfold UnpackedFloat.unpack
  dsimp only
  split
  · -- with all bits of the exponent set there is one word for what is no number
    rename_i hE
    split
    · rename_i hM
      simp only [UnpackedFloat.pack, packedInfinity]
      rw [← hE]
      rwa [hM] at hparts
    · rename_i hM
      exact (hb.eq_packedNaN hE hM).symm
  · rename_i hE
    split
    · rename_i hE0
      rw [hE0] at hparts
      split
      · rename_i hM
        simp only [UnpackedFloat.pack, packedZero]
        rwa [hM] at hparts
      · rw [pack_subnormal _ _ hmantissa (by rw [hE0]; decide), BitVec.ofNat_toNat,
          BitVec.setWidth_eq]
        exact hparts
    · rename_i hE0
      rw [pack_implied _ _ _ hE0 hE]
      exact hparts

/-- A number is the one with its bits. -/
theorem ofBits_toBits (x : Float) : Float.ofBits x.toBits = x := by
  obtain ⟨⟨bits, valid⟩⟩ := x
  unfold Float.ofBits Float.toBits Float.Model.ofBits Float.Model.pack
  congr
  exact pack_unpack valid

/-! ### Reading a word -/

/-- How a word is read, with powers that arithmetic knows. -/
theorem ofWord_eq (word : Nat) :
    ofWord word =
      if word / 2 ^ 52 % 2 ^ 11 = 2 ^ 11 - 1 then
        if word % 2 ^ 52 = 0 then .infinite (word / 2 ^ 63 % 2 == 1) else .nan
      else if word / 2 ^ 52 % 2 ^ 11 = 0 then
        .finite (word / 2 ^ 63 % 2 == 1) (word % 2 ^ 52) (-1074)
      else
        .finite (word / 2 ^ 63 % 2 == 1) (2 ^ 52 + word % 2 ^ 52)
          ((word / 2 ^ 52 % 2 ^ 11 : Nat) - 1075) :=
  rfl

/-- The word of `mantissa * 2 ^ exponent`, the sign apart.  The implied leading
bit of a mantissa counts as one more in the exponent. -/
def magnitudeWord (mantissa : Nat) (exponent : Int) : Nat :=
  (exponent + 1074).toNat * 2 ^ 52 + mantissa

/-- The mantissas and exponents that words are read as. -/
structure IsCanonical (mantissa : Nat) (exponent : Int) : Prop where
  /-- A mantissa has at most 53 bits. -/
  mantissa_lt : mantissa < 2 ^ 53
  /-- The smallest exponent. -/
  le_exponent : -1074 ≤ exponent
  /-- The largest exponent. -/
  exponent_le : exponent ≤ 971
  /-- A mantissa has all of its bits, but for the smallest exponent. -/
  normal : exponent = -1074 ∨ 2 ^ 52 ≤ mantissa

/-- What a word that is read as finite consists of. -/
theorem eq_word_of_ofWord {word : Nat} (hword : word < 2 ^ 64) {negative : Bool}
    {mantissa : Nat} {exponent : Int}
    (h : ofWord word = .finite negative mantissa exponent) :
    IsCanonical mantissa exponent
      ∧ word = (if negative then 2 ^ 63 else 0) + magnitudeWord mantissa exponent := by
  have hsign : (if (word / 2 ^ 63 % 2 == 1) = true then 2 ^ 63 else 0)
      = word / 2 ^ 63 * 2 ^ 63 := by
    have hbit : word / 2 ^ 63 = 0 ∨ word / 2 ^ 63 = 1 := by omega
    rcases hbit with hbit | hbit
    · rw [hbit]
      rfl
    · rw [hbit]
      rfl
  rw [ofWord_eq] at h
  split at h
  · split at h <;> cases h
  · rename_i hmax
    split at h
    · cases h
      refine ⟨⟨by omega, by omega, by omega, by omega⟩, ?_⟩
      rw [hsign]
      simp only [magnitudeWord]
      omega
    · cases h
      refine ⟨⟨by omega, by omega, by omega, by omega⟩, ?_⟩
      rw [hsign]
      simp only [magnitudeWord]
      omega

/-- The exponent of a word, as a number. -/
private theorem toNat_unpackExponent (b : BitVec Format.binary64.numBits) :
    (unpackExponent b).toNat = b.toNat / 2 ^ 52 % 2 ^ 11 := by
  simp [unpackExponent, BitVec.extractLsb_toNat, Nat.shiftRight_eq_div_pow]

/-- The exponent of a word has all its bits set if it is the largest one. -/
private theorem unpackExponent_eq_max (b : BitVec Format.binary64.numBits) :
    unpackExponent b = -1#_ ↔ b.toNat / 2 ^ 52 % 2 ^ 11 = 2 ^ 11 - 1 := by
  rw [← toNat_unpackExponent, ← BitVec.toNat_inj]
  exact Iff.rfl

/-- The fraction of a word, as a number. -/
private theorem unpackMantissa_eq_zero (b : BitVec Format.binary64.numBits) :
    unpackMantissa b = 0 ↔ b.toNat % 2 ^ 52 = 0 := by
  rw [← BitVec.toNat_inj]
  simp [unpackMantissa, BitVec.extractLsb_toNat]

/-- What a word unpacks to is finite unless all bits of its exponent are set. -/
private theorem isFinite_unpack (b : BitVec Format.binary64.numBits) :
    (UnpackedFloat.unpack Format.binary64 b).isFinite = true
      ↔ b.toNat / 2 ^ 52 % 2 ^ 11 ≠ 2 ^ 11 - 1 := by
  rw [Ne, ← unpackExponent_eq_max]
  unfold UnpackedFloat.unpack
  dsimp only
  split
  · rename_i h
    split <;> simp [UnpackedFloat.isFinite, h]
  · rename_i h
    refine ⟨fun _ => h, fun _ => ?_⟩
    split
    · split <;> rfl
    · rfl

/-- The finite numbers are those with a mantissa and an exponent. -/
theorem isFinite_iff (x : Float) :
    x.isFinite = true ↔ ∃ negative mantissa exponent,
      ofFloat x = .finite negative mantissa exponent := by
  have hmodel : x.isFinite = true ↔ x.toBits.toNat / 2 ^ 52 % 2 ^ 11 ≠ 2 ^ 11 - 1 :=
    isFinite_unpack x.toBits.toBitVec
  rw [hmodel]
  unfold ofFloat
  rw [ofWord_eq]
  split
  · rename_i h
    split <;> exact ⟨fun hne => absurd h hne, by rintro ⟨_, _, _, ⟨⟩⟩⟩
  · rename_i h
    split <;> exact ⟨fun _ => ⟨_, _, _, rfl⟩, fun _ => h⟩

/-- What a word unpacks to is a number unless all bits of its exponent are set, and one of its
fraction. -/
private theorem isNaN_unpack (b : BitVec Format.binary64.numBits) :
    (UnpackedFloat.unpack Format.binary64 b).isNaN = true
      ↔ b.toNat / 2 ^ 52 % 2 ^ 11 = 2 ^ 11 - 1 ∧ b.toNat % 2 ^ 52 ≠ 0 := by
  rw [Ne, ← unpackExponent_eq_max, ← unpackMantissa_eq_zero]
  unfold UnpackedFloat.unpack
  dsimp only
  split
  · rename_i h
    split
    · rename_i hzero
      simp [UnpackedFloat.isNaN, hzero]
    · rename_i hzero
      simp [UnpackedFloat.isNaN, h, hzero]
  · rename_i h
    refine ⟨fun hnan => ?_, fun hmax => absurd hmax.1 h⟩
    split at hnan
    · split at hnan <;> cases hnan
    · cases hnan

/-- What is not a number is read as that. -/
theorem isNaN_iff (x : Float) : x.isNaN = true ↔ ofFloat x = .nan := by
  have hmodel : x.isNaN = true
      ↔ x.toBits.toNat / 2 ^ 52 % 2 ^ 11 = 2 ^ 11 - 1 ∧ x.toBits.toNat % 2 ^ 52 ≠ 0 :=
    isNaN_unpack x.toBits.toBitVec
  rw [hmodel]
  unfold ofFloat
  rw [ofWord_eq]
  split
  · rename_i h
    split
    · rename_i hzero
      exact ⟨fun hne => absurd hzero hne.2, fun hinf => by cases hinf⟩
    · rename_i hzero
      exact ⟨fun _ => rfl, fun _ => ⟨h, hzero⟩⟩
  · rename_i h
    split <;> exact ⟨fun hmax => absurd hmax.1 h, fun hfinite => by cases hfinite⟩

/-- An infinity is the one with the word of its sign. -/
theorem eq_ofBits_of_infinite {x : Float} {negative : Bool} (h : ofFloat x = .infinite negative) :
    x = Float.ofBits (if negative then 0xfff0000000000000 else 0x7ff0000000000000) := by
  have hlt := x.toBits.toNat_lt
  have hword : x.toBits.toNat
      = if negative then 0xfff0000000000000 else 0x7ff0000000000000 := by
    unfold ofFloat at h
    rw [ofWord_eq] at h
    split at h
    · split at h
      · cases h
        split
        · rename_i hsign
          rw [beq_iff_eq] at hsign
          omega
        · rename_i hsign
          rw [beq_iff_eq] at hsign
          omega
      · cases h
    · split at h <;> cases h
  rw [← ofBits_toBits x]
  congr 1
  apply UInt64.toNat_inj.mp
  rw [hword]
  split <;> rfl

/-! ### Words of signs, exponents and mantissas -/

/-- The bit of a sign, at its place in a word. -/
def signWord (negative : Bool) : Nat := if negative then 2 ^ 63 else 0

/-- A sign in the runtime's model. -/
def signOf (negative : Bool) : Sign := if negative then .negative else .positive

/-- The word that is put together from a sign, an exponent and a mantissa. -/
theorem toNat_packComponents (negative : Bool) (exponent : BitVec 11) (mantissa : BitVec 52) :
    (packComponents Format.binary64 (signOf negative) exponent mantissa).toNat
      = signWord negative + (exponent.toNat * 2 ^ 52 + mantissa.toNat) := by
  have hexponent := exponent.isLt
  have hsign : (signOf negative).toBitVec.toNat = if negative then 1 else 0 := by
    cases negative <;> rfl
  unfold packComponents
  rw [BitVec.toNat_append, BitVec.toNat_append, ← Nat.shiftLeft_add_eq_or_of_lt exponent.isLt,
    ← Nat.shiftLeft_add_eq_or_of_lt mantissa.isLt, hsign, Nat.shiftLeft_eq, Nat.shiftLeft_eq]
  unfold signWord
  cases negative with
  | false => simp
  | true =>
    simp only [if_true]
    omega

/-- A word is read as the sign, mantissa and exponent that it is put together from. -/
theorem ofWord_magnitudeWord (negative : Bool) {m : Nat} {e : Int} (h : IsCanonical m e) :
    ofWord (signWord negative + magnitudeWord m e) = .finite negative m e := by
  obtain ⟨hlt, hlow, hhigh, hnormal⟩ := h
  have hmagnitude : magnitudeWord m e < 2047 * 2 ^ 52 := by
    unfold magnitudeWord
    omega
  have hsign : ((signWord negative + magnitudeWord m e) / 2 ^ 63 % 2 == 1) = negative := by
    unfold signWord
    cases negative with
    | false => simp only [Bool.false_eq_true, if_false, beq_eq_false_iff_ne]; omega
    | true => simp only [if_true, beq_iff_eq]; omega
  have hrest : (signWord negative + magnitudeWord m e) / 2 ^ 52 % 2 ^ 11
        = magnitudeWord m e / 2 ^ 52
      ∧ (signWord negative + magnitudeWord m e) % 2 ^ 52 = magnitudeWord m e % 2 ^ 52 := by
    unfold signWord
    split <;> omega
  rw [ofWord_eq, hsign, hrest.1, hrest.2]
  unfold magnitudeWord at hmagnitude ⊢
  rw [if_neg (by omega)]
  split
  · rename_i hzero
    rw [Binary64.finite.injEq]
    exact ⟨rfl, by omega, by omega⟩
  · rename_i hne
    rw [Binary64.finite.injEq]
    exact ⟨rfl, by omega, by omega⟩

/-- The word of a finite number. -/
theorem toNat_pack_finite (negative : Bool) {m : Nat} {e : Int} (h : IsCanonical m e)
    (hpos : 0 < m) :
    (UnpackedFloat.pack Format.binary64 (.finite (signOf negative) m e hpos)).toNat
      = signWord negative + magnitudeWord m e := by
  have hlt := h.mantissa_lt
  have hlow := h.le_exponent
  have hhigh := h.exponent_le
  unfold magnitudeWord
  by_cases hm : m < 2 ^ 52
  · obtain rfl : e = -1074 := h.normal.resolve_right (by omega)
    rw [pack_subnormal _ hpos hm rfl, toNat_packComponents, BitVec.toNat_ofNat]
    change _ + (0 * 2 ^ 52 + m % 2 ^ 52) = _
    omega
  · rw [pack_normal _ hpos (by omega) hlt hlow hhigh, toNat_packComponents, BitVec.toNat_ofNat,
      BitVec.toNat_ofNat]
    omega

/-- The sign of a word. -/
private theorem ofBitVec_unpackSign (b : BitVec Format.binary64.numBits) :
    Sign.ofBitVec (unpackSign b) = signOf (b.toNat / 2 ^ 63 % 2 == 1) := by
  have hbit : (unpackSign b).toNat = b.toNat / 2 ^ 63 % 2 := by
    simp [unpackSign, BitVec.extractLsb_toNat, Nat.shiftRight_eq_div_pow]
  unfold Sign.ofBitVec signOf
  have hzero : unpackSign b = 0#1 ↔ b.toNat / 2 ^ 63 % 2 = 0 := by
    rw [← BitVec.toNat_inj, hbit]
    exact Iff.rfl
  simp only [hzero, beq_iff_eq]
  split <;> split <;> first | rfl | omega

/-- The mantissa of a word, as a number. -/
private theorem toNat_unpackMantissa (b : BitVec Format.binary64.numBits) :
    (unpackMantissa b).toNat = b.toNat % 2 ^ 52 := by
  simp [unpackMantissa, BitVec.extractLsb_toNat]

/-- A word that is read as a finite number other than zero is unpacked to that. -/
private theorem unpack_of_ofWord {b : BitVec Format.binary64.numBits} {negative : Bool} {m : Nat}
    {e : Int} (h : ofWord b.toNat = .finite negative m e) (hpos : 0 < m) :
    UnpackedFloat.unpack Format.binary64 b = .finite (signOf negative) m e hpos := by
  have hexponent := toNat_unpackExponent b
  have hmax := unpackExponent_eq_max b
  have hfraction := toNat_unpackMantissa b
  have hbias : ((Format.binary64.exponentBias : Nat) : Int)
      + (Format.binary64.mantissaBitsWithoutImplicit : Nat) = 1075 := by decide
  rw [ofWord_eq] at h
  unfold UnpackedFloat.unpack
  dsimp only
  rw [ofBitVec_unpackSign, hbias, hexponent]
  split at h
  · split at h <;> cases h
  rename_i hfinite
  rw [if_neg (mt hmax.mp hfinite)]
  split at h
  · rename_i hzero
    have hnone : unpackExponent b = 0#_ := BitVec.eq_of_toNat_eq (hexponent.trans hzero)
    cases h
    have hne : unpackMantissa b ≠ 0#_ := fun h0 => by
      rw [h0] at hfraction
      exact hpos.ne hfraction
    rw [if_pos hnone, dif_neg hne, UnpackedFloat.finite.injEq]
    exact ⟨rfl, hfraction, by omega⟩
  · rename_i hnormal
    have hsome : unpackExponent b ≠ 0#_ := fun h0 => by
      rw [h0] at hexponent
      exact hnormal hexponent.symm
    have hsum : (1#1 ++ unpackMantissa b).toNat = 2 ^ 52 + (unpackMantissa b).toNat := by
      rw [BitVec.toNat_append, ← Nat.shiftLeft_add_eq_or_of_lt (unpackMantissa b).isLt]
      rfl
    cases h
    rw [if_neg hsome, UnpackedFloat.finite.injEq]
    exact ⟨rfl, by rw [hsum, hfraction], rfl⟩

/-- A finite number other than zero is unpacked to its sign, mantissa and exponent. -/
theorem unpack_of_ofFloat {x : Float} {negative : Bool} {m : Nat} {e : Int}
    (h : ofFloat x = .finite negative m e) (hpos : 0 < m) :
    x.toModel.unpack = .finite (signOf negative) m e hpos :=
  unpack_of_ofWord h hpos

/-- A finite number is the one with the word of its sign, mantissa and
exponent. -/
theorem eq_ofBits_of_ofFloat {x : Float} {negative : Bool} {mantissa : Nat} {exponent : Int}
    (h : ofFloat x = .finite negative mantissa exponent) :
    IsCanonical mantissa exponent ∧
      x = Float.ofBits (UInt64.ofNat
        ((if negative then 2 ^ 63 else 0) + magnitudeWord mantissa exponent)) := by
  obtain ⟨hcanonical, hword⟩ := eq_word_of_ofWord x.toBits.toNat_lt h
  refine ⟨hcanonical, ?_⟩
  rw [← hword, UInt64.ofNat_toNat, ofBits_toBits]

/-! ### Zero -/

/-- A number is zero, of either sign. -/
def IsZero (x : Float) : Prop := ∃ negative e, ofFloat x = .finite negative 0 e

/-- **What is equal to zero is one of the two zeros.** -/
theorem beq_zero_iff (x : Float) : (x == Float.ofNat 0) = true ↔ IsZero x := by
  have hcompare : (x == Float.ofNat 0) = (x.toModel.unpack.compare (.zero .positive) == some .eq) :=
    rfl
  unfold IsZero
  rcases hx : ofFloat x with _ | negative | ⟨negative, m, e⟩
  · have hnan : x.toModel.unpack.isNaN = true := (isNaN_iff x).mpr hx
    have hnone : x.toModel.unpack.compare (.zero .positive) = none := by
      cases hunpack : x.toModel.unpack <;> rw [hunpack] at hnan <;> first | rfl | cases hnan
    rw [hcompare, hnone]
    exact iff_of_false Bool.false_ne_true (by rintro ⟨_, _, ⟨⟩⟩)
  · have hne : (x == Float.ofNat 0) = false := by
      rw [eq_ofBits_of_infinite hx]
      cases negative <;> decide +kernel
    rw [hne]
    exact iff_of_false Bool.false_ne_true (by rintro ⟨_, _, ⟨⟩⟩)
  · by_cases hm : m = 0
    · subst hm
      obtain ⟨hcanonical, hbits⟩ := eq_ofBits_of_ofFloat hx
      obtain rfl : e = -1074 := hcanonical.normal.resolve_right (by omega)
      refine iff_of_true ?_ ⟨negative, -1074, rfl⟩
      rw [hbits]
      cases negative <;> decide +kernel
    · have hne : x.toModel.unpack.compare (.zero .positive) ≠ some .eq := by
        rw [unpack_of_ofFloat hx (Nat.pos_of_ne_zero hm)]
        cases negative <;> exact fun h => by cases h
      rw [hcompare, beq_iff_eq]
      refine iff_of_false hne ?_
      rintro ⟨_, _, ⟨⟩⟩
      exact hm rfl

end BlockExtent.Binary64
