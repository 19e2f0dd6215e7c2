/-!
# Machine words

Counts and positions are kept in words, most of them unsigned and of 64 bits.  The
result of an operation that does not fit its word wraps around.  A program that is built
with checks stops there instead; both are the same for results that fit.

## Main definitions

* `wordCount` — the number of words of so many bits.
* `wordAdd`, `wordMul` — the sum and the product of unsigned words.
* `signedWord` — an integer as a signed word.
* `indexWord` — a signed word used as a position.
-/

namespace BlockExtent

/-- The number of words of so many bits. -/
def wordCount (bits : Nat) : Nat := Nat.pow 2 bits

/-- The sum of unsigned words of 64 bits. -/
def wordAdd (a b : Nat) : Nat := (a + b) % wordCount 64

/-- The product of unsigned words of so many bits. -/
def wordMul (bits a b : Nat) : Nat := a * b % wordCount bits

/-- An integer as a signed word of so many bits. -/
def signedWord (bits : Nat) (n : Int) : Int := n.bmod (wordCount bits)

/-- A signed word used as a position, which is an unsigned word of 64 bits. -/
def indexWord (n : Int) : Nat := (n % (wordCount 64 : Int)).toNat

/-- A product that fits its word is not changed. -/
theorem wordMul_of_lt {bits a b : Nat} (h : a * b < wordCount bits) :
    wordMul bits a b = a * b :=
  Nat.mod_eq_of_lt h

/-- An integer that fits a signed word is the word itself. -/
theorem signedWord_eq_self {bits : Nat} {n : Int} (hlow : -(wordCount bits : Int) ≤ n * 2)
    (hhigh : n * 2 < wordCount bits) : signedWord bits n = n :=
  Int.bmod_eq_of_le_mul_two hlow hhigh

/-- A position that is not negative is the word itself. -/
theorem indexWord_of_nonneg {n : Int} (hlow : 0 ≤ n) (hhigh : n < wordCount 64) :
    (indexWord n : Int) = n := by
  unfold indexWord
  rw [Int.emod_eq_of_lt hlow hhigh, Int.toNat_of_nonneg hlow]

end BlockExtent
