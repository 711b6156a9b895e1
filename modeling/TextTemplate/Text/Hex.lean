/-!
# Hexadecimal digits
-/

namespace TextTemplate.Text

/-- The value of a hexadecimal digit. -/
def hexDigit? (c : Char) : Option Nat :=
  let n := c.toNat
  if 0x30 ≤ n ∧ n ≤ 0x39 then some (n - 0x30)
  else if 0x41 ≤ n ∧ n ≤ 0x46 then some (n - 0x37)
  else if 0x61 ≤ n ∧ n ≤ 0x66 then some (n - 0x57)
  else none

/-- The number of exactly so many hexadecimal digits, added to `n`, and the rest of the text. -/
def hexNumber? : Nat → Nat → List Char → Option (Nat × List Char)
  | 0, n, rest => some (n, rest)
  | _ + 1, _, [] => none
  | count + 1, n, c :: rest =>
    (hexDigit? c).bind fun digit => hexNumber? count (16 * n + digit) rest

end TextTemplate.Text
