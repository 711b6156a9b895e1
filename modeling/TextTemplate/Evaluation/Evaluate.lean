import TextTemplate.Evaluation.Registry
import TextTemplate.Template.Part

/-!
# Evaluation

The value of a part depends on a registry and a scope. A scope holds the values of the context and
of enclosing loops, and says whether a missing variable counts as null, as it does on the left of
`??`.

* `Part.evaluate` is the value of a part, `Template.evaluate` that of a template.
-/

namespace TextTemplate

/-- What an evaluation sees besides the registry. -/
structure Scope where
  values : Fields
  /-- Do missing variables count as null? -/
  coalescing : Bool

namespace Scope

def ofContext (context : Fields) : Scope := ⟨context, false⟩

/-- The same values, missing variables counting as null. -/
def forgiving (s : Scope) : Scope := { s with coalescing := true }

/-- The scope of one turn of a loop; the index wins if both names are the same. -/
def bind (s : Scope) (item : String) (v : Value) (index : Option String) (i : Nat) : Scope :=
  let values := s.values.put item v
  match index with
  | some index => { s with values := values.put index (.number (Number.ofNat i)) }
  | none => { s with values := values }

/-- The value at a path: from the scope, else from the registry. -/
def lookup? (s : Scope) (registry : Registry) (path : String) : Option Value :=
  match Path.parse? path with
  | some segments => (Path.resolveIn? s.values segments).or (registry.resolve? segments)
  | none => none

end Scope

/-- What a loop runs over: the items of a list, or the entries of an object. -/
def Value.elements? : Value → Option (List Value)
  | .list items => some items
  | .object fields => some (fields.map fun (key, v) => .object [("key", .text key), ("value", v)])
  | .null => some []
  | _ => none

/-- The renderings of the turns of a loop in order, or the first fault. -/
def renderTurns (turn : Value → Nat → Except EvalFault Value) :
    List Value → Nat → Except EvalFault (List Char)
  | [], _ => .ok []
  | v :: rest, i =>
    match turn v i with
    | .error f => .error f
    | .ok result =>
      match renderTurns turn rest (i + 1) with
      | .error f => .error f
      | .ok text => .ok (result.render ++ text)

namespace Part

mutual

/-- The value of a part. Arguments are evaluated from left to right, before their function is
looked up. -/
def evaluate (registry : Registry) : Part → Scope → Except EvalFault Value
  | .text s, _ => .ok (.text s)
  | .literal v, _ => .ok v
  | .variable path, scope =>
    match scope.lookup? registry path with
    | some v => .ok v
    | none => if scope.coalescing then .ok .null else .error (.variableNotFound path)
  | .call name args, scope =>
    match evaluateAll registry args scope with
    | .error f => .error f
    | .ok values =>
      match registry.function? name with
      | none => .error (.functionNotFound name)
      | some function =>
        match function values with
        | .ok v => .ok v
        | .error f => .error (.call name f)
  | .coalesce left right, scope =>
    match evaluate registry left scope.forgiving with
    | .ok v => if v.isEmptyLike then evaluate registry right scope else .ok v
    | .error _ => evaluate registry right scope
  | .forEach item index collection body, scope =>
    match evaluate registry collection scope with
    | .error f => .error f
    | .ok v =>
      match v.elements? with
      | none => .error (.notIterable v.typeName)
      | some elements =>
        match renderTurns
          (fun v i => evaluate registry body (scope.bind item v index i)) elements 0 with
        | .error f => .error f
        | .ok turns => .ok (.text (String.ofList turns))

/-- The values of parts in order, or the first fault. -/
def evaluateAll (registry : Registry) : List Part → Scope → Except EvalFault (List Value)
  | [], _ => .ok []
  | part :: rest, scope =>
    match evaluate registry part scope with
    | .error f => .error f
    | .ok v =>
      match evaluateAll registry rest scope with
      | .error f => .error f
      | .ok values => .ok (v :: values)

end

end Part

namespace Template

/-- The value of a template. A single part keeps its type; several are rendered one after another;
no part is the empty text. -/
def evaluate (t : Template) (registry : Registry) (context : Fields) : Except EvalFault Value :=
  let scope := Scope.ofContext context
  match t.parts with
  | [] => .ok (.text "")
  | [part] => part.evaluate registry scope
  | parts =>
    match Part.evaluateAll registry parts scope with
    | .ok values => .ok (.text (String.ofList (values.flatMap Value.render)))
    | .error f => .error f

/-- The rendering of the value of a template. -/
def render (t : Template) (registry : Registry) (context : Fields) : Except EvalFault String :=
  (t.evaluate registry context).map Value.rendered

end Template

end TextTemplate
