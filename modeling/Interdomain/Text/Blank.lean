/-!
# White space

The characters with the Unicode property `White_Space`, and the trimming of a text at both ends.
Identifiers and durations are read with these blanks, so the table is the whole property and not
its ASCII part.
-/

namespace Interdomain

/-- The property `White_Space`: nine single characters and three runs. -/
def isBlank (c : Char) : Bool :=
  let n := c.toNat
  (0x09 ≤ n && n ≤ 0x0D) || n == 0x20 || n == 0x85 || n == 0xA0 || n == 0x1680 ||
  (0x2000 ≤ n && n ≤ 0x200A) || n == 0x2028 || n == 0x2029 || n == 0x202F || n == 0x205F ||
  n == 0x3000

/-- A text without the blanks at its start and at its end. -/
def trimBlanks (cs : List Char) : List Char :=
  ((cs.dropWhile isBlank).reverse.dropWhile isBlank).reverse

end Interdomain
