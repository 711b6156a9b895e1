import TextTemplate.Text.Blank
import TextTemplate.Value.Basic

/-!
# Paths

A path names a place inside nested objects and lists: keys joined by points, each followed by any
number of bracketed indices, as in `user.addresses[0].street`.

* `Path.parse?` reads the text of a path, `Path.join` writes it.
* `Path.resolve?` follows a path; what cannot be followed leads nowhere.
-/

namespace TextTemplate

/-- One step of a path. -/
inductive Segment
  | key (name : String)
  | index (i : Nat)
deriving DecidableEq, Repr

abbrev Path := List Segment

namespace Path

/-- An index is below this bound. -/
def indexLimit : Nat := Nat.pow 2 64

/-- The parts of a text between points. -/
def fields : List Char → List (List Char)
  | [] => [[]]
  | c :: rest =>
    if c = '.' then [] :: fields rest
    else
      match fields rest with
      | field :: more => (c :: field) :: more
      | [] => [[c]]

/-- The index written between two brackets. -/
def index? (inner : List Char) : Option Nat :=
  let digits := Text.trim inner
  if digits ≠ [] ∧ digits.all Char.isDigit then
    let i := Nat.ofDigitChars 10 digits 0
    if i < indexLimit then some i else none
  else none

/-- A run of bracketed indices; inside a bracket, `inner` holds what was passed, in reverse. -/
def indices? (inner : Option (List Char)) : List Char → Option (List Segment)
  | [] => match inner with
    | none => some []
    | some _ => none
  | c :: rest =>
    match inner with
    | none => if c = '[' then indices? (some []) rest else none
    | some done =>
      if c = ']' then do
        let i ← index? done.reverse
        let more ← indices? none rest
        some (.index i :: more)
      else indices? (some (c :: done)) rest

/-- A key that is not empty, and the indices after it. -/
def field? (text : List Char) : Option (List Segment) :=
  let name := Text.trim (text.takeWhile (· != '['))
  if name = [] then none
  else (indices? none (text.dropWhile (· != '['))).map (.key (String.ofList name) :: ·)

/-- Reads a path; none for a malformed one. -/
def parseChars? (text : List Char) : Option Path :=
  let text := Text.trim text
  if text = [] then none else ((fields text).mapM field?).map List.flatten

/-- Reads a path; none for a malformed one. -/
def parse? (text : String) : Option Path := parseChars? text.toList

end Path

/-- The text of one step. -/
def Segment.text : Segment → List Char
  | .key name => name.toList
  | .index i => '[' :: Nat.toDigits 10 i ++ [']']

namespace Path

/-- The text of the steps after the first. -/
def joinRest : Path → List Char
  | [] => []
  | .key name :: rest => '.' :: name.toList ++ joinRest rest
  | .index i :: rest => (Segment.index i).text ++ joinRest rest

/-- The canonical text of a path. -/
def join : Path → List Char
  | [] => []
  | first :: rest => first.text ++ joinRest rest

/-- Follows one step. -/
def step? : Value → Segment → Option Value
  | .object fields, .key name => Table.get? fields name
  | .list items, .index i => items[i]?
  | _, _ => none

/-- Follows a path from a value. -/
def resolve? : Value → Path → Option Value
  | v, [] => some v
  | v, segment :: rest => (step? v segment).bind fun next => resolve? next rest

/-- Follows a path from named values; its first step is a key. -/
def resolveIn? (fields : Fields) : Path → Option Value
  | .key name :: rest => (fields.get? name).bind fun v => resolve? v rest
  | _ => none

/-- Reads a path and follows it. -/
def resolveText? (v : Value) (text : String) : Option Value :=
  (parse? text).bind (resolve? v)

/-- The name that a path starts with. -/
def rootName? (text : String) : Option String :=
  let root := Text.trim ((Text.trim text.toList).takeWhile fun c => c != '.' && c != '[')
  if root = [] then none else some (String.ofList root)

end Path

end TextTemplate
