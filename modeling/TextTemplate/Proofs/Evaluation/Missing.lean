import TextTemplate.Proofs.Evaluation.Dependencies
import TextTemplate.Proofs.Evaluation.Forgiving

/-!
# Missing variables are reported

A variable that an evaluation misses is among the dependencies that the template reports, or it
stands in a loop that binds its name. A path that no loop binds is looked up in the context as it
is, since the scopes of an evaluation differ from the context in the names of loops only.

* `Misses`: what holds of the variables that a result misses.
* `Scope.Extends`: a scope that differs from the context in some names only.
* `Part.Accounts`: the reasons that a part has for missing a variable.
* `evaluate_misses`: a part misses variables for these reasons only, by induction on the part.
* `missing_accounted`: the statement for templates.
-/

namespace TextTemplate

/-! ## Faults of missing variables -/

/-- A variable that the result reports as missing has a property. -/
def Misses {α : Type} (P : String → Prop) (r : Except EvalFault α) : Prop :=
  ∀ path, r = .error (.variableNotFound path) → P path

namespace Misses

variable {α β : Type} {P Q : String → Prop}

theorem ok (a : α) : Misses P (.ok a) := by
  intro path h
  cases h

theorem mono {r : Except EvalFault α} (h : Misses P r) (hImp : ∀ path, P path → Q path) :
    Misses Q r := fun path hPath => hImp path (h path hPath)

theorem bind {r : Except EvalFault α} {next : α → Except EvalFault β} (h : Misses P r)
    (hNext : ∀ a, Misses P (next a)) : Misses P (r >>= next) := by
  cases r with
  | error f =>
    intro path hPath
    cases hPath
    exact h path rfl
  | ok a => exact hNext a

end Misses

theorem renderTurns_misses {P : String → Prop} {turn : Value → Nat → Except EvalFault Value}
    (h : ∀ v i, Misses P (turn v i)) (elements : List Value) (i : Nat) :
    Misses P (renderTurns turn elements i) := by
  induction elements generalizing i with
  | nil => exact .ok []
  | cons v rest ih =>
    rw [renderTurns_cons]
    exact (h v i).bind fun result => (ih (i + 1)).bind fun text => .ok _

theorem Value.renderLoop_misses {P : String → Prop} {turn : Value → Nat → Except EvalFault Value}
    (h : ∀ v i, Misses P (turn v i)) (v : Value) : Misses P (v.renderLoop turn) := by
  unfold Value.renderLoop
  cases v.elements? with
  | none =>
    intro path hPath
    cases hPath
  | some elements => exact (renderTurns_misses h elements 0).bind fun turns => .ok _

/-! ## Scopes of loops -/

/-- The scope has the values of the context, but for some names. -/
def Scope.Extends (s : Scope) (context : Fields) (names : List String) : Prop :=
  ∀ name, name ∉ names → s.values.get? name = context.get? name

theorem Scope.Extends.bind {s : Scope} {context : Fields} {names : List String}
    (h : s.Extends context names) (item : String) (v : Value) (index : Option String) (i : Nat) :
    (s.bind item v index i).Extends context (item :: index.toList ++ names) := by
  intro name hName
  have hItem : name ≠ item := fun he => hName (by simp [he])
  have hIndex : index ≠ some name := fun he => hName (by simp [he])
  have hOuter : name ∉ names := fun hMem => hName (List.mem_append_right _ hMem)
  rw [Scope.get?_bind, if_neg hIndex, if_neg hItem, h name hOuter]

/-- A variable is looked up in the scope and then in the registry. -/
theorem Scope.lookup?_eq_or (s : Scope) (registry : Registry) (path : String) :
    s.lookup? registry path
      = (Path.find? s.values path).or (Path.find? registry.bindings path) := by
  unfold Scope.lookup? Path.find?
  cases Path.parse? path <;> rfl

/-! ## Reasons for missing a variable -/

/-- The first part stands in the second one, at any depth, or is the second one. -/
inductive Part.Within (q : Part) : Part → Prop
  | self : Within q q
  | argument {function : String} {args : List Part} {arg : Part} :
      arg ∈ args → Within q arg → Within q (.call function args)
  | left {left right : Part} : Within q left → Within q (.coalesce left right)
  | right {left right : Part} : Within q right → Within q (.coalesce left right)
  | collection {item : String} {index : Option String} {collection body : Part} :
      Within q collection → Within q (.forEach item index collection body)
  | body {item : String} {index : Option String} {collection body : Part} :
      Within q body → Within q (.forEach item index collection body)

/-- In a loop of the part, the variable of this path stands in the body, and its root is the item or
the index of the loop. -/
def Part.BindsRoot (p : Part) (path : String) : Prop :=
  ∃ item index collection body root, (Part.forEach item index collection body).Within p ∧
    (Part.variable path).Within body ∧ Path.rootName? path = some root ∧
    (root = item ∨ index = some root)

/-- Why a part may miss the variable of a path where some names are bound around it. -/
inductive Part.Accounts (registry : Registry) (context : Fields) (names : List String) (p : Part)
    (path : String) : Prop
  /-- The path is reported, and found nowhere. -/
  | reported : path ∈ p.paths names → Path.find? context path = none →
      Path.find? registry.bindings path = none → Accounts registry context names p path
  /-- Its root is bound around the part. -/
  | around {root : String} : (Part.variable path).Within p → Path.rootName? path = some root →
      root ∈ names → Accounts registry context names p path
  /-- Its root is bound in the part. -/
  | inside : p.BindsRoot path → Accounts registry context names p path

section Accounts

variable {registry : Registry} {context : Fields} {names : List String}

theorem Part.mem_pathsAll {ps : List Part} {path : String} :
    path ∈ Part.pathsAll names ps ↔ ∃ p ∈ ps, path ∈ p.paths names := by
  induction ps with
  | nil => simp [Part.pathsAll]
  | cons p rest ih => simp [Part.pathsAll, ih]

namespace Part.Accounts

variable {path : String}

/-- A part has the reasons of the parts that stand in it, if it reports what they do. -/
theorem lift {p q : Part} (h : p.Accounts registry context names path)
    (hPaths : path ∈ p.paths names → path ∈ q.paths names)
    (hWithin : ∀ r : Part, r.Within p → r.Within q) :
    q.Accounts registry context names path := by
  cases h with
  | reported hMem hContext hRegistry => exact .reported (hPaths hMem) hContext hRegistry
  | around hVariable hRoot hNames => exact .around (hWithin _ hVariable) hRoot hNames
  | inside hBinds =>
    obtain ⟨item, index, collection, body, root, hLoop, hRest⟩ := hBinds
    exact .inside ⟨item, index, collection, body, root, hWithin _ hLoop, hRest⟩

theorem argument {function : String} {args : List Part}
    (h : ∃ arg ∈ args, arg.Accounts registry context names path) :
    (Part.call function args).Accounts registry context names path := by
  obtain ⟨arg, hMem, hArg⟩ := h
  refine hArg.lift (fun hPath => ?_) fun r hr => .argument hMem hr
  exact mem_pathsAll.mpr ⟨arg, hMem, hPath⟩

theorem body {item : String} {index : Option String} {collection body : Part}
    (h : body.Accounts registry context (item :: index.toList ++ names) path) :
    (Part.forEach item index collection body).Accounts registry context names path := by
  cases h with
  | reported hMem hContext hRegistry =>
    exact .reported (List.mem_append_right _ hMem) hContext hRegistry
  | @around root hVariable hRoot hNames =>
    -- The name is bound by this loop or around it.
    rcases List.mem_append.mp hNames with hLoop | hOuter
    · refine .inside ⟨item, index, collection, body, root, .self, hVariable, hRoot, ?_⟩
      simpa [Option.mem_toList] using hLoop
    · exact .around (.body hVariable) hRoot hOuter
  | inside hBinds =>
    obtain ⟨_, _, _, _, _, hLoop, hRest⟩ := hBinds
    exact .inside ⟨_, _, _, _, _, .body hLoop, hRest⟩

end Part.Accounts

theorem Part.variable_misses {s : Scope} (h : s.Extends context names) (path : String) :
    Misses ((Part.variable path).Accounts registry context names)
      ((Part.variable path).evaluate registry s) := by
  intro missed hMissed
  rw [Part.evaluate, Scope.lookup?_eq_or] at hMissed
  split at hMissed
  · cases hMissed
  · rename_i hNone
    obtain ⟨hScope, hRegistry⟩ := Option.or_eq_none_iff.mp hNone
    split at hMissed
    · cases hMissed
    · cases hMissed
      by_cases hBound : ∃ root, Path.rootName? path = some root ∧ root ∈ names
      · obtain ⟨root, hRoot, hNames⟩ := hBound
        exact .around .self hRoot hNames
      · have hContext : Path.find? context path = Path.find? s.values path :=
          Path.find?_congr fun root hRoot => (h root fun hMem => hBound ⟨root, hRoot, hMem⟩).symm
        have hReported : path ∈ (Part.variable path).paths names := by
          cases hRoot : Path.rootName? path with
          | none => simp [Part.paths, hRoot]
          | some root =>
            have hNew : root ∉ names := fun hMem => hBound ⟨root, hRoot, hMem⟩
            simp [Part.paths, hRoot, hNew]
        exact .reported hReported (hContext.trans hScope) hRegistry

mutual

/-- A part misses a variable for one of these reasons only. -/
theorem Part.evaluate_misses {names : List String} {s : Scope} (h : s.Extends context names)
    (p : Part) : Misses (p.Accounts registry context names) (p.evaluate registry s) := by
  match p with
  | .text _ | .literal _ => exact .ok _
  | .variable path => exact Part.variable_misses h path
  | .call name args =>
    rw [Part.evaluate_call]
    refine ((Part.evaluateAll_misses h args).mono fun path => .argument).bind fun values => ?_
    exact fun path hPath => absurd hPath (registry.apply_ne_variableNotFound name values path)
  | .coalesce left right =>
    have hRight := (Part.evaluate_misses h right).mono fun path hPath =>
      Part.Accounts.lift (q := .coalesce left right) hPath (List.mem_append_right _)
        fun r hr => .right hr
    rw [Part.evaluate]
    -- What goes wrong on the left side is dropped.
    split
    · split
      · exact hRight
      · exact .ok _
    · exact hRight
  | .forEach item index collection body =>
    rw [Part.evaluate_forEach]
    refine ((Part.evaluate_misses h collection).mono fun path hPath => ?_).bind fun v => ?_
    · exact hPath.lift (List.mem_append_left _) fun r hr => .collection hr
    · refine Value.renderLoop_misses (fun element i => ?_) v
      exact (Part.evaluate_misses (h.bind item element index i) body).mono fun path => .body

theorem Part.evaluateAll_misses {names : List String} {s : Scope} (h : s.Extends context names)
    (ps : List Part) : Misses (fun path => ∃ p ∈ ps, p.Accounts registry context names path)
      (Part.evaluateAll registry ps s) := by
  match ps with
  | [] => exact .ok []
  | p :: rest =>
    rw [Part.evaluateAll_cons]
    refine ((Part.evaluate_misses h p).mono fun path hPath => ?_).bind fun v => ?_
    · exact ⟨p, List.mem_cons_self, hPath⟩
    · refine ((Part.evaluateAll_misses h rest).mono fun path hPath => ?_).bind fun values => .ok _
      obtain ⟨q, hMem, hq⟩ := hPath
      exact ⟨q, List.mem_cons_of_mem p hMem, hq⟩

end

end Accounts

/-! ## Templates -/

namespace Template

/-- A template fails with the first fault of its parts, whether it has one part or several. -/
theorem evaluateAll_of_error {t : Template} {registry : Registry} {context : Fields} {f : EvalFault}
    (h : t.evaluate registry context = .error f) :
    Part.evaluateAll registry t.parts (Scope.ofContext context) = .error f := by
  have hRender := t.render_eq registry context
  rw [render, h, Part.renderAll] at hRender
  cases hParts : Part.evaluateAll registry t.parts (Scope.ofContext context) with
  | error g =>
    rw [hParts] at hRender
    cases hRender
    rfl
  | ok values =>
    rw [hParts] at hRender
    cases hRender

/-- A loop occurs nowhere in the template. -/
def LoopFree (t : Template) : Prop :=
  ∀ part ∈ t.parts, ∀ (item : String) (index : Option String) (collection body : Part),
    ¬ (Part.forEach item index collection body).Within part

/-- A template that misses a variable reports its path, which is found neither in the context nor in
the registry, unless the variable stands in a loop that binds its root. So nothing is missed by a
template without loops whose reported paths are all found. -/
theorem missing_accounted (t : Template) (registry : Registry) (context : Fields) :
    (∀ path, t.evaluate registry context = .error (.variableNotFound path) →
      (path ∈ t.variablePaths ∧ Path.find? context path = none ∧
          Path.find? registry.bindings path = none) ∨
        ∃ part ∈ t.parts, part.BindsRoot path) ∧
    (t.LoopFree → (∀ path ∈ t.variablePaths, ∃ v, Path.find? context path = some v ∨
        Path.find? registry.bindings path = some v) →
      ∀ path, t.evaluate registry context ≠ .error (.variableNotFound path)) := by
  have hAccounts (path : String)
      (h : t.evaluate registry context = .error (.variableNotFound path)) :
      (path ∈ t.variablePaths ∧ Path.find? context path = none ∧
          Path.find? registry.bindings path = none) ∨
        ∃ part ∈ t.parts, part.BindsRoot path := by
    have hStart : (Scope.ofContext context).Extends context [] := fun _ _ => rfl
    obtain ⟨part, hMem, hPart⟩ :=
      Part.evaluateAll_misses hStart t.parts path (evaluateAll_of_error h)
    cases hPart with
    | reported hPath hContext hRegistry =>
      refine .inl ⟨List.mem_eraseDups.mpr ?_, hContext, hRegistry⟩
      exact Part.mem_pathsAll.mpr ⟨part, hMem, hPath⟩
    | around _ _ hNone => cases hNone
    | inside hBinds => exact .inr ⟨part, hMem, hBinds⟩
  refine ⟨hAccounts, fun hLoopFree hFound path h => ?_⟩
  rcases hAccounts path h with ⟨hMem, hContext, hRegistry⟩ | ⟨part, hMem, hBinds⟩
  · obtain ⟨v, hSome | hSome⟩ := hFound path hMem
    · rw [hContext] at hSome
      cases hSome
    · rw [hRegistry] at hSome
      cases hSome
  · obtain ⟨item, index, collection, body, root, hLoop, -⟩ := hBinds
    exact hLoopFree part hMem item index collection body hLoop

/-- A field that an item of a loop lacks; and arguments that are found in the context and in the
registry, of a function that is not. -/
theorem missing_accounted_field :
    let context : Fields := [("items", .list [.object []])]
    let registry := Registry.empty.setVariable "unit" (.text "kg")
    let loop : Template := ⟨"", [.forEach "x" none (.variable "items") (.variable "x.y")]⟩
    let call : Template := ⟨"", [.text "-", .call "f" [.variable "items[0]", .variable "unit"]]⟩
    (loop.evaluate registry context = .error (.variableNotFound "x.y") ∧
      "x.y" ∉ loop.variablePaths ∧ ∃ part ∈ loop.parts, part.BindsRoot "x.y") ∧
    call.LoopFree ∧ call.variablePaths = ["items[0]", "unit"] ∧
      call.evaluate registry context = .error (.functionNotFound "f") ∧
      ∀ path, call.evaluate registry context ≠ .error (.variableNotFound path) := by
  intro context registry loop call
  have hLoop : loop.evaluate registry context = .error (.variableNotFound "x.y") := by rfl
  have hUnreported : "x.y" ∉ loop.variablePaths := by decide +kernel
  have hFree : call.LoopFree := by
    intro part hMem item index collection body hWithin
    rcases List.mem_cons.mp hMem with rfl | hMem
    · cases hWithin
    · obtain rfl := List.mem_singleton.mp hMem
      cases hWithin with
      | argument hArg hWithin =>
        simp only [List.mem_cons, List.not_mem_nil, or_false] at hArg
        rcases hArg with rfl | rfl <;> cases hWithin
  have hPaths : call.variablePaths = ["items[0]", "unit"] := by decide +kernel
  have hFound : ∀ path ∈ call.variablePaths, ∃ v, Path.find? context path = some v ∨
      Path.find? registry.bindings path = some v := by
    rw [hPaths]
    refine List.forall_mem_cons.mpr ⟨⟨.object [], .inl rfl⟩, ?_⟩
    exact List.forall_mem_singleton.mpr ⟨.text "kg", .inr rfl⟩
  refine ⟨⟨hLoop, hUnreported, ?_⟩, hFree, hPaths, by rfl, ?_⟩
  · exact ((loop.missing_accounted registry context).1 _ hLoop).resolve_left fun h =>
      hUnreported h.1
  · exact (call.missing_accounted registry context).2 hFree hFound

end Template

end TextTemplate
