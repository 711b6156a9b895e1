import TextTemplate.Evaluation.Evaluate

/-!
# The steps of an evaluation

What a part evaluates to, as a chain of steps the first of which may end it with a fault.

* `evaluate_call`, `evaluate_forEach`, `evaluateAll_cons`, `renderTurns_cons`: one equation for each
  place where evaluations follow one another.
* `evaluateAll_append`: the first of two runs of parts is evaluated first.
* `render_eq`: a template is rendered part by part, however many parts it has.
-/

namespace TextTemplate

/-- What a function gives for its arguments, by the name of the function. -/
def Registry.apply (registry : Registry) (name : String) (args : List Value) :
    Except EvalFault Value :=
  match registry.function? name with
  | none => .error (.functionNotFound name)
  | some function =>
    match function args with
    | .ok v => .ok v
    | .error f => .error (.call name f)

/-- The text of a loop over a value. -/
def Value.renderLoop (turn : Value → Nat → Except EvalFault Value) (v : Value) :
    Except EvalFault Value :=
  match v.elements? with
  | none => .error (.notIterable v.typeName)
  | some elements => do
    let turns ← renderTurns turn elements 0
    .ok (.text (String.ofList turns))

theorem renderTurns_cons (turn : Value → Nat → Except EvalFault Value) (v : Value)
    (rest : List Value) (i : Nat) : renderTurns turn (v :: rest) i = (do
      let result ← turn v i
      let text ← renderTurns turn rest (i + 1)
      .ok (result.render ++ text)) := by
  rw [renderTurns]
  cases turn v i with
  | error f => rfl
  | ok result => cases renderTurns turn rest (i + 1) <;> rfl

namespace Part

variable (registry : Registry) (s : Scope)

theorem evaluate_call (name : String) (args : List Part) :
    evaluate registry (.call name args) s = (do
      let values ← evaluateAll registry args s
      registry.apply name values) := by
  rw [evaluate]
  cases evaluateAll registry args s <;> rfl

theorem evaluate_forEach (item : String) (index : Option String) (collection body : Part) :
    evaluate registry (.forEach item index collection body) s = (do
      let v ← evaluate registry collection s
      v.renderLoop fun v i => evaluate registry body (s.bind item v index i)) := by
  rw [evaluate]
  cases evaluate registry collection s with
  | error f => rfl
  | ok v =>
    dsimp only [bind, Except.bind]
    unfold Value.renderLoop
    cases v.elements? with
    | none => rfl
    | some elements =>
      dsimp only
      cases renderTurns _ elements 0 <;> rfl

theorem evaluateAll_cons (part : Part) (rest : List Part) :
    evaluateAll registry (part :: rest) s = (do
      let v ← evaluate registry part s
      let values ← evaluateAll registry rest s
      .ok (v :: values)) := by
  rw [evaluateAll]
  cases evaluate registry part s with
  | error f => rfl
  | ok v => cases evaluateAll registry rest s <;> rfl

theorem evaluateAll_append (parts more : List Part) :
    evaluateAll registry (parts ++ more) s = (do
      let values ← evaluateAll registry parts s
      let others ← evaluateAll registry more s
      .ok (values ++ others)) := by
  induction parts with
  | nil =>
    change evaluateAll registry more s = _
    rw [evaluateAll]
    cases evaluateAll registry more s <;> rfl
  | cons part rest ih =>
    rw [List.cons_append, evaluateAll_cons, evaluateAll_cons, ih]
    cases evaluate registry part s with
    | error f => rfl
    | ok v =>
      cases evaluateAll registry rest s with
      | error f => rfl
      | ok values => cases evaluateAll registry more s <;> rfl

/-- The renderings of parts in order, or the first fault. -/
def renderAll (parts : List Part) : Except EvalFault (List Char) := do
  let values ← evaluateAll registry parts s
  .ok (values.flatMap Value.render)

theorem renderAll_nil : renderAll registry s [] = .ok [] := rfl

theorem renderAll_cons (part : Part) (rest : List Part) :
    renderAll registry s (part :: rest) = (do
      let v ← evaluate registry part s
      let text ← renderAll registry s rest
      .ok (v.render ++ text)) := by
  unfold renderAll
  rw [evaluateAll_cons]
  cases evaluate registry part s with
  | error f => rfl
  | ok v => cases evaluateAll registry rest s <;> rfl

end Part

/-- A single part keeps its type when it is evaluated, but it is rendered as among others. -/
theorem Template.render_eq (t : Template) (registry : Registry) (context : Fields) :
    t.render registry context
      = (Part.renderAll registry (Scope.ofContext context) t.parts).map String.ofList := by
  unfold Template.render Template.evaluate Part.renderAll
  dsimp only
  split
  · rename_i hParts
    rw [hParts]
    rfl
  · rename_i part hParts
    rw [hParts, Part.evaluateAll_cons]
    cases part.evaluate registry (Scope.ofContext context) with
    | error f => rfl
    | ok v =>
      have hSingle : [v].flatMap Value.render = v.render := List.append_nil v.render
      change Except.ok v.rendered = Except.ok (String.ofList ([v].flatMap Value.render))
      rw [hSingle]
      rfl
  · cases hValues : Part.evaluateAll registry t.parts (Scope.ofContext context) with
    | error f => rfl
    | ok values =>
      have hText (s : List Char) : Value.rendered (.text (String.ofList s)) = String.ofList s :=
        congrArg String.ofList String.toList_ofList
      exact congrArg Except.ok (hText _)

end TextTemplate
