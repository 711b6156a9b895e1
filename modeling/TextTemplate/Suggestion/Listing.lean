import TextTemplate.Evaluation.Registry
import TextTemplate.Suggestion.Preview

/-!
# All suggestions of a registry

Every variable with everything that can be reached below it, parents first; the first item of a
list stands for all of them. Functions follow.
-/

namespace TextTemplate

/-- What a suggestion says of a value. -/
def Value.description : Value → String
  | .object fields => "Object with " ++ toString fields.length ++ " properties"
  | .list items => "Array of " ++ toString items.length ++ " items"
  | v => v.typeName ++ " value"

namespace Suggestion

/-- The expression of a field. -/
def fieldOf (expression name : String) : String := expression ++ "." ++ name

/-- The expression of the first item. -/
def firstItemOf (expression : String) : String := expression ++ "[0]"

/-- The suggestion of a value. -/
def ofValue (settings : SuggestionSettings) (expression : String) (isNested : Bool) (v : Value) :
    Suggestion where
  expression := expression
  type := v.typeName
  description := v.description
  sample := v.preview settings
  children := match v with
    | .object fields => fields.map Prod.fst
    | _ => []
  isNested := isNested
  list := match v with
    | .list [] => some ⟨"unknown", firstItemOf expression, 0⟩
    | .list (first :: rest) => some ⟨first.typeName, firstItemOf expression, rest.length + 1⟩
    | _ => none
  isFunction := false
  signature := none

/-- The suggestion of a function. -/
def ofFunction (name : String) (entry : FunctionEntry) : Suggestion where
  expression := name
  type := "function"
  description := entry.description
  sample := .null
  children := []
  isNested := false
  list := none
  isFunction := true
  signature := some entry.signature

mutual

/-- The suggestion of a value, and those below it. -/
def below (settings : SuggestionSettings) (expression : String) (isNested : Bool) :
    Value → List Suggestion
  | .object fields =>
    ofValue settings expression isNested (.object fields) :: belowFields settings expression fields
  | .list [] => [ofValue settings expression isNested (.list [])]
  | .list (first :: rest) =>
    ofValue settings expression isNested (.list (first :: rest))
      :: below settings (firstItemOf expression) true first
  | v => [ofValue settings expression isNested v]

def belowFields (settings : SuggestionSettings) (expression : String) :
    List (String × Value) → List Suggestion
  | [] => []
  | (name, v) :: rest =>
    below settings (fieldOf expression name) true v ++ belowFields settings expression rest

end

/-- The suggestions of variables. -/
def ofVariables (settings : SuggestionSettings) (bindings : Fields) : List Suggestion :=
  bindings.flatMap fun (name, v) => below settings name false v

/-- Everything that can be suggested. -/
def all (settings : SuggestionSettings) (registry : Registry) : List Suggestion :=
  ofVariables settings registry.bindings
    ++ registry.functions.map fun (name, entry) => ofFunction name entry

end Suggestion

end TextTemplate
