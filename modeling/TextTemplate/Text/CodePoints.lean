/-!
# Sets of characters

A set of code points is written as its boundaries: starts and ends in turn, an end being the first
code point after a run of members. Unicode properties are tables of that form.
-/

namespace TextTemplate

/-- Boundaries of runs of code points, ascending: start, end, start, end, … -/
abbrev CodePoints := List Nat

namespace CodePoints

def contains : CodePoints → Nat → Bool
  | first :: next :: rest, c => (decide (first ≤ c) && decide (c < next)) || contains rest c
  | _, _ => false

end CodePoints

end TextTemplate
