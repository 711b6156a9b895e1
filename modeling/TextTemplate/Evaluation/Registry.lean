import TextTemplate.Evaluation.Fault
import TextTemplate.Path
import TextTemplate.Text.Quoted

/-!
# Registries

A registry holds the variables and functions that every evaluation sees.
-/

namespace TextTemplate

/-- A function from evaluated arguments to one value. -/
abbrev Function := List Value → Except CallFault Value

/-- A function with its documentation. -/
structure FunctionEntry where
  call : Function
  signature : String
  description : String

structure Registry where
  /-- The variables. -/
  bindings : Fields
  functions : Table FunctionEntry

namespace Registry

def empty : Registry := ⟨[], []⟩

/-- Registers or replaces a variable. -/
def setVariable (r : Registry) (name : String) (v : Value) : Registry :=
  { r with bindings := r.bindings.put name v }

/-- Removes a variable. -/
def removeVariable (r : Registry) (name : String) : Registry :=
  { r with bindings := r.bindings.remove name }

/-- Registers or replaces variables in order. -/
def setVariables (r : Registry) (fields : List (String × Value)) : Registry :=
  fields.foldl (fun r (name, v) => r.setVariable name v) r

/-- Registers or replaces a documented function. -/
def setFunction (r : Registry) (name : String) (entry : FunctionEntry) : Registry :=
  { r with functions := r.functions.put name entry }

/-- The entry of a function registered without documentation. -/
def undocumented (name : String) (call : Function) : FunctionEntry :=
  ⟨call, name ++ "(...)", "User-defined function"⟩

def function? (r : Registry) (name : String) : Option Function :=
  (r.functions.get? name).map (·.call)

/-- The value at a path that starts with a variable. -/
def resolve? (r : Registry) (path : Path) : Option Value := Path.resolveIn? r.bindings path

/-- Names in brackets, each quoted. -/
def quotedNames (names : List String) : String :=
  "[" ++ ", ".intercalate (names.map fun name => String.ofList (Text.quoted name.toList)) ++ "]"

/-- A registry for inspection: its variable and function names. -/
def inspect (r : Registry) : String :=
  "Registry \x7b variables: " ++ quotedNames r.bindings.names ++ ", functions: "
    ++ quotedNames r.functions.names ++ " \x7d"

end Registry

end TextTemplate
