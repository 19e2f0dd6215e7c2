import BlockExtent.Text.Trailing

/-!
# Blank characters

## Main definitions

* `isBlank` — whether a character has the Unicode property `White_Space`.
* `trimBlank` — text without the blank characters at its ends.
-/

namespace BlockExtent

/-- Whether a character has the property `White_Space`. -/
def isBlank (c : Char) : Bool :=
  let n := c.toNat
  (9 ≤ n && n ≤ 13) || n == 0x20 || n == 0x85 || n == 0xa0 || n == 0x1680
    || (0x2000 ≤ n && n ≤ 0x200a) || n == 0x2028 || n == 0x2029 || n == 0x202f
    || n == 0x205f || n == 0x3000

/-- Text without the blank characters at its ends. -/
def trimBlank (text : List Char) : List Char :=
  dropTrailing isBlank (text.dropWhile isBlank)

end BlockExtent
