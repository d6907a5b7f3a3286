/-!
# Blank characters

The characters that count as white space at the two ends of a text, and trimming them off.
-/

namespace Componentry.Text

/-- White space: the ASCII blanks and information separators, the next-line and no-break controls,
and the space separators and line separators of Unicode. -/
def isBlank (c : Char) : Bool :=
  let n := c.toNat
  (9 ≤ n && n ≤ 13) || (28 ≤ n && n ≤ 32) || n == 0x85 || n == 0xA0 || n == 0x1680 ||
    (0x2000 ≤ n && n ≤ 0x200A) || n == 0x2028 || n == 0x2029 || n == 0x202F || n == 0x205F ||
    n == 0x3000

def trim (cs : List Char) : List Char :=
  ((cs.dropWhile isBlank).reverse.dropWhile isBlank).reverse

def isBlankText (cs : List Char) : Bool := cs.all isBlank

end Componentry.Text
