/-! # Blank characters

Blanks are what trimming removes from the ends of a text.
-/

namespace SchemaJoins.Text

/-- White space of every script, with the ASCII separators. -/
def isBlank (c : Char) : Bool :=
  let n := c.toNat
  if n < 128 then
    n == 32 || (decide (9 ≤ n) && decide (n ≤ 13)) || (decide (28 ≤ n) && decide (n ≤ 31))
  else n == 0x85 || n == 0xA0 || n == 0x1680 || (decide (0x2000 ≤ n) && decide (n ≤ 0x200A)) ||
    n == 0x2028 || n == 0x2029 || n == 0x202F || n == 0x205F || n == 0x3000

def trimLeft (cs : List Char) : List Char := cs.dropWhile isBlank

def trimRight (cs : List Char) : List Char := (cs.reverse.dropWhile isBlank).reverse

def trim (cs : List Char) : List Char := trimRight (trimLeft cs)

end SchemaJoins.Text
