/-!
# White space

White space is the Unicode property White_Space. Trimming drops it at the ends of a text.
-/

namespace TextTemplate.Text

/-- Is the character white space? -/
def isBlank (c : Char) : Bool :=
  let n := c.toNat
  (0x09 ≤ n && n ≤ 0x0d) || n == 0x20 || n == 0x85 || n == 0xa0 || n == 0x1680
    || (0x2000 ≤ n && n ≤ 0x200a) || n == 0x2028 || n == 0x2029 || n == 0x202f || n == 0x205f
    || n == 0x3000

/-- Drops leading white space. -/
def trimStart (text : List Char) : List Char := text.dropWhile isBlank

/-- Drops trailing white space. -/
def trimEnd (text : List Char) : List Char := (text.reverse.dropWhile isBlank).reverse

/-- Drops white space on both sides. -/
def trim (text : List Char) : List Char := trimEnd (trimStart text)

end TextTemplate.Text
