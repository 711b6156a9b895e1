import TextTemplate.Proofs.Evaluation.Steps

/-!
# Evaluation with missing variables as null

A scope in which missing variables count as null extends the strict one with the same values: what
has a value there keeps it. And no part reports a missing variable in such a scope, however deep
inside of the evaluated part it stands.

* `Forgives`: a result in a scope, and in its forgiving copy.
* `evaluate_forgives`: the results of a part are related so, by induction on the part.
* `Reaches`: the evaluations that an evaluation may lead to.
* `forgiving_extends_strict`: both statements for every part and scope.
-/

namespace TextTemplate

/-- The first result is kept by the second one if it is a value, and the second one does not report
a missing variable. -/
structure Forgives {α : Type} (strict forgiving : Except EvalFault α) : Prop where
  kept (a : α) : strict = .ok a → forgiving = .ok a
  found (path : String) : forgiving ≠ .error (.variableNotFound path)

namespace Forgives

variable {α β : Type}

theorem ok (a : α) : Forgives (.ok a) (.ok a) := by
  refine ⟨fun b h => h, fun path h => ?_⟩
  cases h

theorem refl {r : Except EvalFault α} (h : ∀ path, r ≠ .error (.variableNotFound path)) :
    Forgives r r := ⟨fun _ hr => hr, h⟩

/-- A fault may turn into a value. -/
theorem of_error {f : EvalFault} {r : Except EvalFault α}
    (h : ∀ path, r ≠ .error (.variableNotFound path)) : Forgives (.error f) r := by
  refine ⟨fun a ha => ?_, h⟩
  cases ha

/-- A step may be taken where the strict evaluation ended before it. -/
theorem bind {r r' : Except EvalFault α} {next next' : α → Except EvalFault β}
    (h : Forgives r r') (hNext : ∀ a, Forgives (next a) (next' a)) :
    Forgives (r >>= next) (r' >>= next') := by
  cases r' with
  | error f' =>
    have hStrict : ∃ f, r = .error f := by
      cases r with
      | error f => exact ⟨f, rfl⟩
      | ok a => cases h.kept a rfl
    obtain ⟨f, rfl⟩ := hStrict
    refine of_error fun path hPath => ?_
    cases hPath
    exact h.found path rfl
  | ok a' =>
    cases r with
    | error f => exact of_error (hNext a').found
    | ok a =>
      obtain rfl : a' = a := Except.ok.inj (h.kept a rfl)
      exact hNext a'

end Forgives

theorem Registry.apply_ne_variableNotFound (registry : Registry) (name : String)
    (args : List Value) (path : String) :
    registry.apply name args ≠ .error (.variableNotFound path) := by
  unfold Registry.apply
  split
  · simp
  · split <;> simp

theorem renderTurns_forgives {turn turn' : Value → Nat → Except EvalFault Value}
    (h : ∀ v i, Forgives (turn v i) (turn' v i)) (elements : List Value) (i : Nat) :
    Forgives (renderTurns turn elements i) (renderTurns turn' elements i) := by
  induction elements generalizing i with
  | nil => exact .ok []
  | cons v rest ih =>
    rw [renderTurns_cons, renderTurns_cons]
    exact (h v i).bind fun result => (ih (i + 1)).bind fun text => .ok _

theorem Value.renderLoop_forgives {turn turn' : Value → Nat → Except EvalFault Value}
    (h : ∀ v i, Forgives (turn v i) (turn' v i)) (v : Value) :
    Forgives (v.renderLoop turn) (v.renderLoop turn') := by
  unfold Value.renderLoop
  cases v.elements? with
  | none =>
    refine .refl fun path hPath => ?_
    cases hPath
  | some elements => exact (renderTurns_forgives h elements 0).bind fun turns => .ok _

/-- A turn of a loop inherits whether missing variables count as null. -/
theorem Scope.bind_forgiving (s : Scope) (item : String) (v : Value) (index : Option String)
    (i : Nat) : s.forgiving.bind item v index i = (s.bind item v index i).forgiving := by
  cases index <;> rfl

theorem Scope.forgiving_of_coalescing {s : Scope} (h : s.coalescing = true) : s.forgiving = s := by
  obtain ⟨values, coalescing⟩ := s
  subst h
  rfl

mutual

/-- The results of a part in a scope and in its forgiving copy. -/
theorem Part.evaluate_forgives (registry : Registry) (s : Scope) (p : Part) :
    Forgives (p.evaluate registry s) (p.evaluate registry s.forgiving) := by
  match p with
  | .text _ | .literal _ => exact .ok _
  | .variable path =>
    have hLookup : s.forgiving.lookup? registry path = s.lookup? registry path := rfl
    rw [Part.evaluate, Part.evaluate, hLookup]
    cases s.lookup? registry path with
    | some v => exact .ok v
    | none =>
      cases hMode : s.coalescing with
      | true => exact .ok _
      | false =>
        refine .of_error fun path hPath => ?_
        cases hPath
  | .call name args =>
    rw [Part.evaluate_call, Part.evaluate_call]
    refine (Part.evaluateAll_forgives registry s args).bind fun values => ?_
    exact .refl (registry.apply_ne_variableNotFound name values)
  | .coalesce left right =>
    -- The left side sees the same scope in both modes, so only the right side can differ.
    have hRight := Part.evaluate_forgives registry s right
    have hAgain : s.forgiving.forgiving = s.forgiving := rfl
    rw [Part.evaluate, Part.evaluate, hAgain]
    cases left.evaluate registry s.forgiving with
    | error f => exact hRight
    | ok v =>
      cases hEmpty : v.isEmptyLike with
      | true => simpa only [hEmpty, if_true] using hRight
      | false => simpa [hEmpty] using Forgives.ok v
  | .forEach item index collection body =>
    rw [Part.evaluate_forEach, Part.evaluate_forEach]
    refine (Part.evaluate_forgives registry s collection).bind fun v => ?_
    refine Value.renderLoop_forgives (fun v i => ?_) v
    rw [Scope.bind_forgiving]
    exact Part.evaluate_forgives registry (s.bind item v index i) body

theorem Part.evaluateAll_forgives (registry : Registry) (s : Scope) (ps : List Part) :
    Forgives (Part.evaluateAll registry ps s) (Part.evaluateAll registry ps s.forgiving) := by
  match ps with
  | [] => exact .ok []
  | p :: rest =>
    rw [Part.evaluateAll_cons, Part.evaluateAll_cons]
    refine (Part.evaluate_forgives registry s p).bind fun v => ?_
    exact (Part.evaluateAll_forgives registry s rest).bind fun values => .ok _

end

/-- The evaluations that the evaluation of a part in a scope may lead to, the one itself among
them. -/
inductive Part.Reaches : Part → Scope → Part → Scope → Prop
  | here (p : Part) (s : Scope) : Reaches p s p s
  | argument {name : String} {args : List Part} {arg q : Part} {s t : Scope} :
      arg ∈ args → Reaches arg s q t → Reaches (.call name args) s q t
  | left {left right q : Part} {s t : Scope} :
      Reaches left s.forgiving q t → Reaches (.coalesce left right) s q t
  | right {left right q : Part} {s t : Scope} :
      Reaches right s q t → Reaches (.coalesce left right) s q t
  | collection {item : String} {index : Option String} {collection body q : Part} {s t : Scope} :
      Reaches collection s q t → Reaches (.forEach item index collection body) s q t
  | body {item : String} {index : Option String} {collection body q : Part} {s t : Scope}
      (v : Value) (i : Nat) :
      Reaches body (s.bind item v index i) q t → Reaches (.forEach item index collection body) s q t

theorem Part.Reaches.coalescing {p q : Part} {s t : Scope} (h : p.Reaches s q t)
    (hMode : s.coalescing = true) : t.coalescing = true := by
  induction h with
  | here => exact hMode
  | argument _ _ ih => exact ih hMode
  | left _ ih => exact ih rfl
  | right _ ih => exact ih hMode
  | collection _ ih => exact ih hMode
  | @body item index _ _ _ _ _ v i _ ih =>
    refine ih ?_
    cases index <;> exact hMode

/-- What evaluates to a value does so too where missing variables count as null, and a missing
variable is not reported there, neither by a part nor by any evaluation that it leads to. -/
theorem Part.forgiving_extends_strict (registry : Registry) (p : Part) (s : Scope) :
    (∀ v, p.evaluate registry s = .ok v → p.evaluate registry s.forgiving = .ok v) ∧
      (s.coalescing = true → ∀ q t, p.Reaches s q t →
        ∀ path, q.evaluate registry t ≠ .error (.variableNotFound path)) := by
  refine ⟨(p.evaluate_forgives registry s).kept, fun hMode q t hReaches path => ?_⟩
  have hFound := (q.evaluate_forgives registry t).found path
  rwa [Scope.forgiving_of_coalescing (hReaches.coalescing hMode)] at hFound

/-- A loop over a text keeps its value. Over the empty text it fails, but not where missing
variables count as null, and there the argument deep inside of it does not fail either. -/
theorem Part.forgiving_extends_loop :
    let registry := Registry.empty.setFunction "f" (Registry.undocumented "f" fun args =>
      .ok (args.headD .null))
    let body : Part := .coalesce (.variable "x") (.call "f" [.variable "z"])
    let loop (s : String) : Part := .forEach "x" none (.literal (.list [.text s])) body
    let scope : Scope := Scope.ofContext []
    (loop "a").evaluate registry scope = .ok (.text "a") ∧
      (loop "a").evaluate registry scope.forgiving = .ok (.text "a") ∧
      (loop "").evaluate registry scope = .error (.variableNotFound "z") ∧
      ∀ path, (Part.variable "z").evaluate registry (scope.forgiving.bind "x" (.text "") none 0)
        ≠ .error (.variableNotFound path) := by
  intro registry body loop scope
  have hValue : (loop "a").evaluate registry scope = .ok (.text "a") := by rfl
  have hFault : (loop "").evaluate registry scope = .error (.variableNotFound "z") := by rfl
  have hReaches : (loop "").Reaches scope.forgiving (.variable "z")
      (scope.forgiving.bind "x" (.text "") none 0) := by
    have hArgument : Part.variable "z" ∈ [Part.variable "z"] := List.mem_singleton.mpr rfl
    exact .body (.text "") 0 (.right (.argument hArgument (.here _ _)))
  obtain ⟨hKept, -⟩ := (loop "a").forgiving_extends_strict registry scope
  obtain ⟨-, hFound⟩ := (loop "").forgiving_extends_strict registry scope.forgiving
  exact ⟨hValue, hKept _ hValue, hFault, hFound rfl _ _ hReaches⟩

end TextTemplate
