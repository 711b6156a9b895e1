/-!
# Alignments of texts

A pattern is aligned with a text by finding its characters in the text, in order. Every match
scores; gaps between matches cost; matches at the start of words and right after one another earn a
bonus.

The best alignments are computed in rows of cells, one row for every character of the pattern and
one cell for every prefix of the text. Two rows are kept: each row is written over the one two
before it, from the cell before the first possible match of its character on. What a row does not
write stays, so that a gap costs no more than a new start of the row, and a cell keeps its bonus for
consecutive matches. These bonuses also outlast the text, and the next one starts with them.

* `Alignment.score?` is the score of the best alignment of a pattern and a text, none if there is
  none, and the bonuses that are left.
-/

namespace TextTemplate.Alignment

/-- The score of a match. -/
def matchScore : Int := 16

/-- The cost of a match of letters in different case. -/
def caseCost : Int := 2

/-- The cost of a gap, besides that of every character in it. -/
def gapCost : Int := 3

/-- The cost of a character in a gap, or in front of the first match. -/
def gapCharCost : Int := 1

/-- The least bonus of a match that follows another one. -/
def consecutiveBonus : Int := 4

/-- Kinds of characters, for finding the starts of words. -/
inductive Kind
  | none
  | bracket
  | mark
  | digit
  | upper
  | lower
deriving DecidableEq

/-- What parts words strongly: spaces, slashes, bars and brackets. -/
def brackets : List Char := " /\\|()[]\x7b\x7d".toList

def Kind.of (c : Char) : Kind :=
  if c = '\x00' then .none
  else if brackets.contains c then .bracket
  else if c.isUpper then .upper
  else if c.isDigit then .digit
  else if 0x20 < c.toNat ∧ c.toNat < 0x7f ∧ ¬c.isLower then .mark
  else .lower

/-- The bonus of a match, by the character in front of it. -/
def placeBonus (before c : Char) : Int :=
  match Kind.of before, Kind.of c with
  | .none, _ => 8
  | .bracket, _ => 8
  | .mark, _ => 7
  | .lower, .upper => 6
  | .digit, .upper => 6
  | _, _ => 0

/-- The bonuses of the characters of a text after another one. -/
def placeBonusesAfter (before : Char) : List Char → List Int
  | [] => []
  | c :: rest => placeBonus before c :: placeBonusesAfter c rest

/-- The bonuses of the characters of a text; that of the first one counts twice. -/
def placeBonuses (text : List Char) : List Int :=
  match placeBonusesAfter '\x00' text with
  | [] => []
  | first :: rest => 2 * first :: rest

/-- The score of matching a character of the text, if it is the one of the pattern. -/
def charScore? (caseSensitive : Bool) (p c : Char) : Option Int :=
  if p = c then some matchScore
  else if !caseSensitive && p.toLower = c.toLower then some (matchScore - caseCost)
  else none

/-- The greater of two scores, where there are any. -/
def best : Option Int → Option Int → Option Int
  | some a, some b => some (max a b)
  | some a, none => some a
  | none, b => b

/-- The best alignments of some characters of the pattern with a prefix of the text. -/
structure Cell where
  /-- The score where the last character of the prefix is matched. -/
  ending : Option Int
  /-- The score where it is not. -/
  passed : Option Int
  /-- What a match right after the prefix has earned for being consecutive. -/
  bonus : Int

/-- A cell without alignments. -/
def Cell.blank (bonus : Int) : Cell := ⟨none, none, bonus⟩

/-- Extends a prefix by a character of the text. From the cell of the prefix, the one above it for
all but the last character of the pattern, and the bonus that the cell of the longer prefix has kept
come the cell of the prefix, with its bonus, and the one of the longer prefix. -/
def Cell.extend (caseSensitive : Bool) (p c : Char) (place : Int) (prior above : Cell)
    (kept : Int) : Cell × Cell :=
  let passed := best (prior.ending.map (· - (gapCost + gapCharCost)))
    (prior.passed.map (· - gapCharCost))
  match charScore? caseSensitive p c with
  | none => (prior, ⟨none, passed, 0⟩)
  | some score =>
    let bonus := max prior.bonus (max place consecutiveBonus)
    let ending := best (above.ending.map (· + (bonus + score)))
      (above.passed.map (· + (place + score)))
    ({ prior with bonus }, ⟨ending, passed, kept⟩)

/-- The cells of a row from a prefix on: its own cell, and those of the longer prefixes. The text
comes with the bonuses of its places, the row above and the overwritten row with their cells. -/
def cellsFrom (caseSensitive : Bool) (p : Char) :
    Cell → List (Char × Int) → List Cell → List Cell → List Cell
  | prior, (c, place) :: text, above :: aboves, old :: olds =>
    let (prior, longer) := Cell.extend caseSensitive p c place prior above old.bonus
    prior :: cellsFrom caseSensitive p longer text aboves olds
  | prior, _, _, _ => [prior]

/-- The row of a character of the pattern, whose first possible match lies behind `start` characters
of the text. -/
def nextRow (caseSensitive : Bool) (p : Char) (start : Nat) (text : List (Char × Int))
    (above old : List Cell) : List Cell :=
  match old.drop start with
  | [] => old
  | prior :: olds =>
    old.take start
      ++ cellsFrom caseSensitive p prior (text.drop start) (above.drop start) olds

/-- The two rows that are kept. -/
structure Rows where
  /-- The row of the last character so far. -/
  last : List Cell
  /-- The row before it. -/
  other : List Cell

/-- The rows after some characters of the pattern, each with its first possible match. -/
def Rows.after (caseSensitive : Bool) (text : List (Char × Int)) :
    List (Char × Nat) → Rows → Rows
  | [], rows => rows
  | (p, start) :: pattern, rows =>
    Rows.after caseSensitive text pattern
      ⟨nextRow caseSensitive p start text rows.last rows.other, rows.last⟩

/-- Where the characters of a pattern match first, each after the one before it. The text starts at
place `i`. -/
def firstMatches? (caseSensitive : Bool) : List Char → List Char → Nat → Option (List Nat)
  | [], _, _ => some []
  | _ :: _, [], _ => none
  | p :: pattern, c :: text, i =>
    if (charScore? caseSensitive p c).isSome then
      (firstMatches? caseSensitive pattern text (i + 1)).map (i :: ·)
    else firstMatches? caseSensitive (p :: pattern) text (i + 1)

/-- The bonuses that are left in the cells, first those of the row for an even number of characters
of the pattern. -/
abbrev Bonuses := List Int

/-- The row of the empty pattern: every prefix of the text can be passed over. -/
def firstRow (text : List Char) : List Cell :=
  List.replicate (text.length + 1) ⟨none, some (-gapCharCost), 0⟩

/-- The row under the first one. Its cells keep the bonuses that were left in their place, up to
the end of what was left; the one in front of the first match starts anew. -/
def secondRow (left : Bonuses) (text : List Char) (start : Nat) : List Cell :=
  let size := text.length + 1
  let kept := (left.drop size).take size
  ((kept ++ List.replicate (size - kept.length) 0).set start 0).map .blank

/-- The score of the best alignment, and the bonuses that are left after it. Case counts only if the
pattern has a capital letter. A text that cannot be aligned leaves everything as it is. -/
def score? (left : Bonuses) (pattern text : List Char) : Option (Int × Bonuses) := do
  let caseSensitive := pattern.any Char.isUpper
  let starts ← firstMatches? caseSensitive pattern text 0
  let first ← starts.head?
  let final ← starts.getLast?
  let rows := Rows.after caseSensitive (text.zip (placeBonuses text)) (pattern.zip starts)
    ⟨firstRow text, secondRow left text first⟩
  let score ← ((rows.last.drop final).map Cell.ending).foldl best none
  let bonuses := if pattern.length % 2 = 0 then rows.last ++ rows.other else rows.other ++ rows.last
  some (score, bonuses.map Cell.bonus)

/-- Texts with the scores of their best alignments, in order; those that cannot be aligned are left
out. -/
def scores {α : Type} (text : α → List Char) (pattern : List Char) :
    Bonuses → List α → List (α × Int)
  | _, [] => []
  | left, a :: rest =>
    match score? left pattern (text a) with
    | none => scores text pattern left rest
    | some (score, left) => (a, score) :: scores text pattern left rest

end TextTemplate.Alignment
