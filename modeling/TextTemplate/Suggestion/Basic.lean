import TextTemplate.Value.Json

/-!
# Suggestions

A suggestion is a text that can be inserted into an expression, with what there is to know about
it: a path to a value, or the name of a function.
-/

namespace TextTemplate

/-- How suggestions are made. -/
structure SuggestionSettings where
  /-- A text in a sample is cut to that many characters. -/
  sampleChars : Nat := 20
  /-- An object in a sample is cut to that many fields. -/
  sampleKeys : Nat := 3
  /-- At most that many completions are given. -/
  limit : Option Nat := none
  /-- Are completions without the right start looked for as well? -/
  fuzzy : Bool := true
deriving DecidableEq

/-- What a suggestion says of a list. -/
structure ListSummary where
  itemType : String
  /-- The expression of the first item. -/
  firstItem : String
  length : Nat
deriving DecidableEq

structure Suggestion where
  expression : String
  type : String
  description : String
  sample : Value
  /-- The names of the fields of an object. -/
  children : List String
  /-- Is it below a variable? -/
  isNested : Bool
  list : Option ListSummary
  isFunction : Bool
  signature : Option String

namespace Suggestion

/-- How many steps the expression takes below its root. -/
def depth (s : Suggestion) : Nat := s.expression.toList.countP fun c => c == '.' || c == '['

end Suggestion

/-- A summary as JSON. -/
def ListSummary.toJson (l : ListSummary) : Json :=
  .object [("itemType", .text l.itemType), ("sampleAccess", .text l.firstItem),
    ("length", .integer l.length)]

/-- A suggestion as JSON; what it lacks is left out. -/
def Suggestion.toJson (s : Suggestion) : Json :=
  .object <|
    [("expr", .text s.expression), ("type", .text s.type), ("description", .text s.description),
      ("sampleValue", s.sample.serialized), ("children", .list (s.children.map .text)),
      ("isNested", .boolean s.isNested)]
    ++ (match s.list with
      | some l => [("arrayInfo", l.toJson)]
      | none => [])
    ++ [("isFunction", .boolean s.isFunction)]
    ++ (match s.signature with
      | some signature => [("signature", .text signature)]
      | none => [])

end TextTemplate
