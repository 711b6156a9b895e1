/-!
# Positions in a text

A position counts the bytes of the text before it, in UTF-8.

* `excerpt_append`: what is found in a text is found further on behind another one.
-/

namespace TextTemplate.Text

/-- The number of bytes of a text. -/
def byteLength : List Char → Nat
  | [] => 0
  | c :: rest => c.utf8Size + byteLength rest

/-- The text from a position on; none if the position is not at the start of a character. -/
def dropBytes? : Nat → List Char → Option (List Char)
  | 0, text => some text
  | _ + 1, [] => none
  | n + 1, c :: rest => if c.utf8Size ≤ n + 1 then dropBytes? (n + 1 - c.utf8Size) rest else none

/-- At most twenty characters from a position on. -/
def excerpt (text : List Char) (position : Nat) : List Char :=
  ((dropBytes? position text).getD []).take 20

theorem byteLength_append (a b : List Char) :
    byteLength (a ++ b) = byteLength a + byteLength b := by
  induction a with
  | nil => exact (Nat.zero_add _).symm
  | cons c a ih => rw [List.cons_append, byteLength, byteLength, ih, Nat.add_assoc]

theorem dropBytes?_append (a b : List Char) (n : Nat) :
    dropBytes? (byteLength a + n) (a ++ b) = dropBytes? n b := by
  induction a with
  | nil => rw [byteLength, Nat.zero_add, List.nil_append]
  | cons c a ih =>
    have hSize : 0 < c.utf8Size := c.utf8Size_pos
    have hSum : byteLength (c :: a) + n = (c.utf8Size - 1 + (byteLength a + n)) + 1 := by
      rw [byteLength]
      omega
    have hLess : c.utf8Size ≤ (c.utf8Size - 1 + (byteLength a + n)) + 1 := by omega
    have hRest : (c.utf8Size - 1 + (byteLength a + n)) + 1 - c.utf8Size
        = byteLength a + n := by omega
    rw [hSum, List.cons_append, dropBytes?, if_pos hLess, hRest, ih]

theorem excerpt_append (a b : List Char) (position : Nat) :
    excerpt (a ++ b) (byteLength a + position) = excerpt b position := by
  unfold excerpt
  rw [dropBytes?_append]

theorem excerpt_behind (a b : List Char) : excerpt (a ++ b) (byteLength a) = b.take 20 := by
  have hStart := excerpt_append a b 0
  rw [Nat.add_zero] at hStart
  rw [hStart]
  cases b <;> rfl

end TextTemplate.Text
