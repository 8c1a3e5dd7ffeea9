/-
Module: Narrative.Text.Blank
Purpose: Blank characters, and text without the blanks around it.
Main exports: isBlank, trimLeft, trimRight, trim
-/

namespace Narrative.Text

/-- The blanks are the space, the control characters that move the cursor or separate records, and
the spaces and line ends of every script. The space of no width and the byte order mark are not
among them. -/
def isBlank (c : Char) : Bool :=
  let n := c.toNat
  n == 0x20 || (0x9 ≤ n && n ≤ 0xd) || (0x1c ≤ n && n ≤ 0x1f) || n == 0x85 || n == 0xa0 ||
    n == 0x1680 || (0x2000 ≤ n && n ≤ 0x200a) || n == 0x2028 || n == 0x2029 || n == 0x202f ||
    n == 0x205f || n == 0x3000

/-- The text without its leading blanks. -/
def trimLeft (cs : List Char) : List Char := cs.dropWhile isBlank

/-- The text without its trailing blanks. -/
def trimRight (cs : List Char) : List Char := (cs.reverse.dropWhile isBlank).reverse

/-- The text without the blanks on either side. -/
def trim (cs : List Char) : List Char := trimRight (trimLeft cs)

end Narrative.Text
