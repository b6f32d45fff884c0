/-!
# Blank characters

The characters that Unicode counts as white space, and the removal of blanks at the ends of a text.
-/

namespace QueryExpr.Blank

/-- The characters with the Unicode property `White_Space`. -/
def isBlank (c : Char) : Bool :=
  let n := c.toNat
  (9 ≤ n && n ≤ 13) || n == 0x20 || n == 0x85 || n == 0xA0 || n == 0x1680
    || (0x2000 ≤ n && n ≤ 0x200A) || n == 0x2028 || n == 0x2029 || n == 0x202F
    || n == 0x205F || n == 0x3000

/-- A text without the blanks at its start. -/
def trimStart (text : List Char) : List Char :=
  text.dropWhile isBlank

/-- A text without the blanks at its ends. -/
def trim (text : List Char) : List Char :=
  (trimStart (trimStart text).reverse).reverse

end QueryExpr.Blank
