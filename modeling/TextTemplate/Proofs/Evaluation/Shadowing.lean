import TextTemplate.Proofs.Evaluation.Dependencies
import TextTemplate.Proofs.Evaluation.Steps

/-!
# What the scope hides of the registry

A variable is looked up in the scope and then in the registry, each time by its whole path. So a
name in the scope hides the registry variable of that name only where the value in the scope can be
followed to the end of the path.

* `Registry.DifferAt`: two registries that differ in the variables of some names.
* `not_shadowsByName`: a name in the scope alone does not hide the registry variable.
* `evaluate_eq_of_finds`: a part that finds all of these names in its scopes evaluates to the same
  with both, by induction on the part.
* `finds_variable_iff`: for a variable, there is no weaker condition.
* `evaluate_independent_of_found`: these, and the names that a loop binds.
-/

namespace TextTemplate

/-- The registries have the same functions, and the same variables under all other names. -/
structure Registry.DifferAt (names : List String) (r r' : Registry) : Prop where
  functions (name : String) : r.function? name = r'.function? name
  bindings (name : String) : name ∉ names → r.bindings.get? name = r'.bindings.get? name

theorem Registry.differAt_setVariable {names : List String} {name : String} (h : name ∈ names)
    (r : Registry) (v : Value) : r.DifferAt names (r.setVariable name v) where
  functions _ := rfl
  bindings other hOther := by
    have hNe : other ≠ name := fun he => hOther (he ▸ h)
    change _ = (r.bindings.put name v).get? other
    rw [Table.get?_put, if_neg hNe]

/-! ## A name alone hides nothing -/

/-- Registries that differ under names of the scope cannot be told apart. -/
def ShadowsByName : Prop :=
  ∀ (p : Part) (s : Scope) (r r' : Registry), r.DifferAt s.values.names r' →
    p.evaluate r s = p.evaluate r' s

/-- Neither can registries that differ under the names of a loop by the loop, unless they give
different collections. -/
def LoopsShadowByName : Prop :=
  ∀ (item : String) (index : Option String) (collection body : Part) (s : Scope)
    (r r' : Registry), r.DifferAt (item :: index.toList) r' →
      collection.evaluate r s = collection.evaluate r' s →
        (Part.forEach item index collection body).evaluate r s
          = (Part.forEach item index collection body).evaluate r' s

/-- An empty object in the scope lets the fields of the registry variable of its name through, and
so does a null that a loop runs over. -/
theorem not_shadowsByName :
    let ann : Value := .object [("name", .text "Ann")]
    let user : Part := .variable "user.name"
    let s := Scope.ofContext [("user", .object [])]
    let loop : Part := .forEach "item" none (.literal (.list [.null])) (.variable "item.name")
    let top := Scope.ofContext []
    (user.evaluate Registry.empty s = .error (.variableNotFound "user.name") ∧
      user.evaluate (Registry.empty.setVariable "user" ann) s = .ok (.text "Ann") ∧
      ¬ ShadowsByName) ∧
    loop.evaluate Registry.empty top = .error (.variableNotFound "item.name") ∧
      loop.evaluate (Registry.empty.setVariable "item" ann) top = .ok (.text "Ann") ∧
      ¬ LoopsShadowByName := by
  intro ann user s loop top
  have hEmpty : user.evaluate Registry.empty s = .error (.variableNotFound "user.name") := rfl
  have hAnn : user.evaluate (Registry.empty.setVariable "user" ann) s = .ok (.text "Ann") := rfl
  have hEmptyLoop : loop.evaluate Registry.empty top = .error (.variableNotFound "item.name") := rfl
  have hAnnLoop : loop.evaluate (Registry.empty.setVariable "item" ann) top
      = .ok (.text "Ann") := rfl
  refine ⟨⟨hEmpty, hAnn, fun h => ?_⟩, hEmptyLoop, hAnnLoop, fun h => ?_⟩
  · have hSame := h user s _ _ (Registry.empty.differAt_setVariable (List.mem_singleton_self _) ann)
    rw [hEmpty, hAnn] at hSame
    cases hSame
  · have hSame := h "item" none (.literal (.list [.null])) (.variable "item.name") top _ _
      (Registry.empty.differAt_setVariable (List.mem_singleton_self _) ann) rfl
    change loop.evaluate _ _ = loop.evaluate _ _ at hSame
    rw [hEmptyLoop, hAnnLoop] at hSame
    cases hSame

/-! ## What can be followed hides the registry -/

/-- The scopes of the turns of a loop. -/
inductive Part.Turn (registry : Registry) (item : String) (index : Option String)
    (collection : Part) (s : Scope) : Scope → Prop
  | mk {v element : Value} {elements : List Value} {i : Nat} :
      collection.evaluate registry s = .ok v → v.elements? = some elements →
        elements[i]? = some element →
          Turn registry item index collection s (s.bind item element index i)

mutual

/-- Does a part find all variables that start with some names in its scopes? -/
def Part.Finds (names : List String) (registry : Registry) : Part → Scope → Prop
  | .text _, _ | .literal _, _ => True
  | .variable path, s => ∀ root rest, Path.parse? path = some (.key root :: rest) → root ∈ names →
    ∃ v, Path.find? s.values path = some v
  | .call _ args, s => FindsAll names registry args s
  | .coalesce left right, s => left.Finds names registry s.forgiving ∧ right.Finds names registry s
  | .forEach item index collection body, s => collection.Finds names registry s ∧
    ∀ t, Turn registry item index collection s t → body.Finds names registry t

def Part.FindsAll (names : List String) (registry : Registry) : List Part → Scope → Prop
  | [], _ => True
  | part :: rest, s => part.Finds names registry s ∧ FindsAll names registry rest s

end

theorem renderTurns_congr {turn turn' : Value → Nat → Except EvalFault Value}
    {elements : List Value} {start : Nat}
    (h : ∀ i v, elements[i]? = some v → turn v (start + i) = turn' v (start + i)) :
    renderTurns turn elements start = renderTurns turn' elements start := by
  induction elements generalizing start with
  | nil => rfl
  | cons v rest ih =>
    have hFirst : turn v start = turn' v start := h 0 v rfl
    have hRest : renderTurns turn rest (start + 1) = renderTurns turn' rest (start + 1) := by
      refine ih fun i w hw => ?_
      rw [Nat.add_assoc, Nat.add_comm 1 i]
      exact h (i + 1) w hw
    rw [renderTurns_cons, renderTurns_cons, hFirst, hRest]

/-- A loop is the same with two registries if its collection and all of its turns are. -/
theorem Part.evaluate_forEach_congr {r r' : Registry} {item : String} {index : Option String}
    {collection body : Part} {s : Scope}
    (hCollection : collection.evaluate r s = collection.evaluate r' s)
    (hTurns : ∀ t, Turn r item index collection s t → body.evaluate r t = body.evaluate r' t) :
    (Part.forEach item index collection body).evaluate r s
      = (Part.forEach item index collection body).evaluate r' s := by
  rw [evaluate_forEach, evaluate_forEach, ← hCollection]
  cases hValue : collection.evaluate r s with
  | error f => rfl
  | ok v =>
    change v.renderLoop _ = v.renderLoop _
    unfold Value.renderLoop
    cases hElements : v.elements? with
    | none => rfl
    | some elements =>
      dsimp only
      rw [renderTurns_congr fun i element hElement => ?_]
      rw [Nat.zero_add]
      exact hTurns _ (.mk hValue hElements hElement)

section Differ

variable {names : List String} {r r' : Registry}

namespace Registry.DifferAt

theorem apply_eq (h : r.DifferAt names r') (name : String) (args : List Value) :
    r.apply name args = r'.apply name args := by
  unfold Registry.apply
  rw [h.functions name]

/-- A variable that the scope has is not looked up in the registry, and one of another name is the
same in both. -/
theorem lookup?_eq (h : r.DifferAt names r') {s : Scope} {path : String}
    (hFinds : (Part.variable path).Finds names r s) : s.lookup? r path = s.lookup? r' path := by
  unfold Scope.lookup?
  cases hPath : Path.parse? path with
  | none => rfl
  | some segments =>
    obtain ⟨root, rest, rfl, -⟩ := Path.rootName?_of_parse? hPath
    dsimp only
    by_cases hRoot : root ∈ names
    · obtain ⟨v, hFound⟩ := hFinds root rest hPath hRoot
      rw [Path.find?, hPath, Option.bind_some] at hFound
      rw [hFound, Option.some_or, Option.some_or]
    · have hSame : r.resolve? (.key root :: rest) = r'.resolve? (.key root :: rest) := by
        simp only [Registry.resolve?, Path.resolveIn?, h.bindings root hRoot]
      rw [hSame]

end Registry.DifferAt

mutual

/-- A part that finds the variables of some names in its scopes evaluates to the same, whatever the
registry has under these names. -/
theorem Part.evaluate_eq_of_finds (h : r.DifferAt names r') (p : Part) {s : Scope}
    (hFinds : p.Finds names r s) : p.evaluate r s = p.evaluate r' s := by
  match p with
  | .text _ | .literal _ => rfl
  | .variable path => rw [Part.evaluate, Part.evaluate, h.lookup?_eq hFinds]
  | .call name args =>
    rw [evaluate_call, evaluate_call, Part.evaluateAll_eq_of_finds h args hFinds]
    exact bind_congr fun values => h.apply_eq name values
  | .coalesce left right =>
    rw [Part.evaluate, Part.evaluate, Part.evaluate_eq_of_finds h left hFinds.1,
      Part.evaluate_eq_of_finds h right hFinds.2]
  | .forEach item index collection body =>
    refine Part.evaluate_forEach_congr (Part.evaluate_eq_of_finds h collection hFinds.1) ?_
    exact fun t hTurn => Part.evaluate_eq_of_finds h body (hFinds.2 t hTurn)

theorem Part.evaluateAll_eq_of_finds (h : r.DifferAt names r') (ps : List Part) {s : Scope}
    (hFinds : Part.FindsAll names r ps s) :
    Part.evaluateAll r ps s = Part.evaluateAll r' ps s := by
  match ps with
  | [] => rfl
  | p :: ps =>
    rw [evaluateAll_cons, evaluateAll_cons, Part.evaluate_eq_of_finds h p hFinds.1,
      Part.evaluateAll_eq_of_finds h ps hFinds.2]

end

end Differ

/-! ## Variables -/

/-- A value that a path leads through to another one. -/
def Path.holding : Path → Value → Value
  | [], v => v
  | .key name :: rest, v => .object [(name, holding rest v)]
  | .index i :: rest, v => .list (List.replicate i .null ++ [holding rest v])

theorem Path.resolve?_holding (path : Path) (v : Value) :
    resolve? (holding path v) path = some v := by
  induction path with
  | nil => rfl
  | cons segment rest ih =>
    cases segment with
    | key name => simp [holding, resolve?, step?, Table.get?, ih]
    | index i => simp [holding, resolve?, step?, ih]

theorem Scope.lookup?_of_find?_none {s : Scope} {path root : String} {rest : Path}
    (hPath : Path.parse? path = some (.key root :: rest)) (h : Path.find? s.values path = none)
    (r : Registry) (v : Value) :
    s.lookup? (r.setVariable root (Path.holding rest v)) path = some v := by
  rw [Path.find?, hPath, Option.bind_some] at h
  have hRegistry : (r.setVariable root (Path.holding rest v)).resolve? (.key root :: rest)
      = some v := by
    change ((r.bindings.put root (Path.holding rest v)).get? root).bind _ = _
    rw [Table.get?_put, if_pos rfl, Option.bind_some, Path.resolve?_holding]
  unfold Scope.lookup?
  rw [hPath]
  dsimp only
  rw [h, hRegistry, Option.none_or]

/-- A variable evaluates to the same with all registries that differ under some names just if the
scope has it or it does not start with one of them. -/
theorem Part.finds_variable_iff {names : List String} {r : Registry} {s : Scope} {path : String} :
    (Part.variable path).Finds names r s ↔ ∀ r', r.DifferAt names r' →
      (Part.variable path).evaluate r s = (Part.variable path).evaluate r' s := by
  refine ⟨fun h r' hDiffer => Part.evaluate_eq_of_finds hDiffer _ h, ?_⟩
  intro h root rest hPath hRoot
  cases hFound : Path.find? s.values path with
  | some v => exact ⟨v, rfl⟩
  | none =>
    -- A registry may have any value at the path, so the variable would have two of them.
    have hValue (v : Value) : (Part.variable path).evaluate r s = .ok v := by
      rw [h _ (r.differAt_setVariable hRoot (Path.holding rest v)), Part.evaluate,
        Scope.lookup?_of_find?_none hPath hFound r v]
    have hSame := (hValue (.boolean true)).symm.trans (hValue (.boolean false))
    cases hSame

/-- What hides a registry variable is a value that can be followed along the whole path. Parts that
find the variables of some names evaluate to the same, whatever the registry has under these names,
and so do loops for the names that they bind; a variable that is not found does not. -/
theorem evaluate_independent_of_found (names : List String) (r : Registry) :
    (∀ (p : Part) (s : Scope) (r' : Registry), p.Finds names r s → r.DifferAt names r' →
      p.evaluate r s = p.evaluate r' s) ∧
    (∀ (item : String) (index : Option String) (collection body : Part) (s : Scope)
      (r' : Registry), r.DifferAt (item :: index.toList) r' →
        collection.evaluate r s = collection.evaluate r' s →
        (∀ t, Part.Turn r item index collection s t → body.Finds (item :: index.toList) r t) →
          (Part.forEach item index collection body).evaluate r s
            = (Part.forEach item index collection body).evaluate r' s) ∧
    ∀ (path : String) (s : Scope), ¬ (Part.variable path).Finds names r s →
      ∃ r', r.DifferAt names r' ∧
        (Part.variable path).evaluate r s ≠ (Part.variable path).evaluate r' s := by
  refine ⟨fun p s r' hFinds hDiffer => p.evaluate_eq_of_finds hDiffer hFinds, ?_, ?_⟩
  · intro item index collection body s r' hDiffer hCollection hBody
    refine Part.evaluate_forEach_congr hCollection fun t hTurn => ?_
    exact body.evaluate_eq_of_finds hDiffer (hBody t hTurn)
  · intro path s hFinds
    rw [Part.finds_variable_iff] at hFinds
    obtain ⟨r', hOther⟩ := Classical.not_forall.mp hFinds
    exact ⟨r', Classical.not_imp.mp hOther⟩

/-- A loop over objects that have the field that its body asks for. -/
theorem evaluate_independent_of_found_field :
    let item : Value := .object [("name", .text "Bob")]
    let ann : Value := .object [("name", .text "Ann")]
    let loop : Part := .forEach "item" none (.literal (.list [item])) (.variable "item.name")
    let top := Scope.ofContext []
    let other := Registry.empty.setVariable "item" ann
    Registry.empty.DifferAt ["item"] other ∧ loop.Finds ["item"] Registry.empty top ∧
      loop.evaluate Registry.empty top = .ok (.text "Bob") ∧
      loop.evaluate Registry.empty top = loop.evaluate other top := by
  intro item ann loop top other
  have hDiffer : Registry.empty.DifferAt ["item"] other :=
    Registry.empty.differAt_setVariable (List.mem_singleton_self _) ann
  have hFinds : loop.Finds ["item"] Registry.empty top := by
    refine ⟨trivial, fun t hTurn root rest hPath _ => ?_⟩
    obtain @⟨v, element, elements, i, hValue, hElements, hElement⟩ := hTurn
    cases hValue
    cases hElements
    obtain rfl := List.mem_singleton.mp (List.mem_of_getElem? hElement)
    exact ⟨.text "Bob", rfl⟩
  refine ⟨hDiffer, hFinds, rfl, ?_⟩
  exact (evaluate_independent_of_found ["item"] Registry.empty).1 loop top other hFinds hDiffer

end TextTemplate
