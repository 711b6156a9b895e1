import TextTemplate.Proofs.Evaluation.Roots

/-!
# The reported dependencies are enough

What a template evaluates to depends on the context only through the paths that it reports. Inside
of loops, the names that the analysis holds bound are those that the loops put into the scope, so
two scopes are compared on the bound names and on the reported paths.

* `Scope.Agree`: two scopes that cannot be told apart by a part.
* `evaluate_agree`: a part evaluates to the same in both, by induction on the part.
* `evaluate_eq_of_lookups`: a template evaluates to the same in contexts that agree on its paths.
-/

namespace TextTemplate

/-- The value at a path among named values. -/
def Path.find? (values : Fields) (path : String) : Option Value :=
  (Path.parse? path).bind (Path.resolveIn? values)

/-- What is found at a path depends on the value of its root only. -/
theorem Path.find?_congr {values values' : Fields} {path : String}
    (h : ∀ root, Path.rootName? path = some root → values.get? root = values'.get? root) :
    Path.find? values path = Path.find? values' path := by
  unfold Path.find?
  cases hPath : Path.parse? path with
  | none => rfl
  | some segments =>
    obtain ⟨root, rest, rfl, hRoot⟩ := Path.rootName?_of_parse? hPath
    simp only [Option.bind_some, Path.resolveIn?, h root hRoot]

/-- No reported path starts with a bound name. -/
theorem Part.root_not_bound {bound : List String} {path root : String}
    (hRoot : Path.rootName? path = some root) (p : Part) (h : path ∈ p.paths bound) :
    root ∉ bound := by
  obtain ⟨names, -, hFree⟩ := (Part.mem_paths_iff p).mp h
  exact (hFree root hRoot).2

/-- Two scopes that agree on the bound names and on what is found at some paths. -/
structure Scope.Agree (bound paths : List String) (s s' : Scope) : Prop where
  coalescing : s.coalescing = s'.coalescing
  bound (name : String) : name ∈ bound → s.values.get? name = s'.values.get? name
  paths (path : String) : path ∈ paths → Path.find? s.values path = Path.find? s'.values path

namespace Scope.Agree

variable {names paths paths' : List String} {s s' : Scope}

theorem mono (h : Agree names paths' s s') (hPaths : ∀ path ∈ paths, path ∈ paths') :
    Agree names paths s s' :=
  ⟨h.coalescing, h.bound, fun path hPath => h.paths path (hPaths path hPath)⟩

theorem forgiving (h : Agree names paths s s') : Agree names paths s.forgiving s'.forgiving :=
  ⟨rfl, h.bound, h.paths⟩

/-- A variable is found in both scopes or in none: its path is reported or its root is bound. -/
theorem find?_eq {path : String} (h : Agree names (Part.paths names (.variable path)) s s') :
    Path.find? s.values path = Path.find? s'.values path := by
  cases hRoot : Path.rootName? path with
  | none => exact h.paths path (by simp [Part.paths, hRoot])
  | some root =>
    by_cases hBound : root ∈ names
    · refine Path.find?_congr fun root' hRoot' => ?_
      cases hRoot.symm.trans hRoot'
      exact h.bound root hBound
    · exact h.paths path (by simp [Part.paths, hRoot, hBound])

theorem lookup?_eq (registry : Registry) {path : String}
    (h : Agree names (Part.paths names (.variable path)) s s') :
    s.lookup? registry path = s'.lookup? registry path := by
  have hFound := h.find?_eq
  unfold Path.find? at hFound
  unfold Scope.lookup?
  cases hPath : Path.parse? path with
  | none => rfl
  | some segments =>
    rw [hPath, Option.bind_some, Option.bind_some] at hFound
    dsimp only
    rw [hFound]

end Scope.Agree

theorem Scope.get?_bind (s : Scope) (item : String) (v : Value) (index : Option String) (i : Nat)
    (name : String) : (s.bind item v index i).values.get? name =
      if index = some name then some (.number (Number.ofNat i))
      else if name = item then some v else s.values.get? name := by
  cases index with
  | none => simp [Scope.bind, Table.get?_put]
  | some index => simp [Scope.bind, Table.get?_put, eq_comm]

/-- Inside of a turn of a loop the scopes agree on the names of the loop as well. Paths that are
reported from there do not start with them. -/
theorem Scope.Agree.bind {names : List String} {s s' : Scope} {item : String}
    {index : Option String} {body : Part} (v : Value) (i : Nat)
    (h : Agree names (body.paths (item :: index.toList ++ names)) s s') :
    Agree (item :: index.toList ++ names) (body.paths (item :: index.toList ++ names))
      (s.bind item v index i) (s'.bind item v index i) := by
  have hOutside (t : Scope) {name : String} (hItem : name ≠ item) (hIndex : index ≠ some name) :
      (t.bind item v index i).values.get? name = t.values.get? name := by
    rw [Scope.get?_bind, if_neg hIndex, if_neg hItem]
  refine ⟨?_, fun name hName => ?_, fun path hPath => ?_⟩
  · cases index <;> exact h.coalescing
  · rw [Scope.get?_bind, Scope.get?_bind]
    by_cases hIndex : index = some name
    · rw [if_pos hIndex, if_pos hIndex]
    · by_cases hItem : name = item
      · rw [if_neg hIndex, if_neg hIndex, if_pos hItem, if_pos hItem]
      · rw [if_neg hIndex, if_neg hIndex, if_neg hItem, if_neg hItem]
        have hOuter : name ∈ names := by simpa [hItem, hIndex] using hName
        exact h.bound name hOuter
  · have hFound (t : Scope) :
        Path.find? (t.bind item v index i).values path = Path.find? t.values path := by
      refine Path.find?_congr fun root hRoot => ?_
      have hNew := Part.root_not_bound hRoot body hPath
      refine hOutside t (fun he => hNew ?_) (fun he => hNew ?_)
      · simp [he]
      · simp [he]
    rw [hFound s, hFound s']
    exact h.paths path hPath

mutual

/-- A part evaluates to the same in two scopes that agree on the names bound around it and on the
paths it reports. -/
theorem Part.evaluate_agree {registry : Registry} {names : List String} {s s' : Scope} (p : Part)
    (h : Scope.Agree names (p.paths names) s s') :
    p.evaluate registry s = p.evaluate registry s' := by
  match p with
  | .text _ | .literal _ => rfl
  | .variable path => rw [Part.evaluate, Part.evaluate, h.lookup?_eq, h.coalescing]
  | .call name args => rw [Part.evaluate, Part.evaluate, Part.evaluateAll_agree args h]
  | .coalesce left right =>
    have hLeft : Scope.Agree names (left.paths names) s s' :=
      h.mono fun path hPath => List.mem_append_left _ hPath
    have hRight : Scope.Agree names (right.paths names) s s' :=
      h.mono fun path hPath => List.mem_append_right _ hPath
    rw [Part.evaluate, Part.evaluate, Part.evaluate_agree left hLeft.forgiving,
      Part.evaluate_agree right hRight]
  | .forEach item index collection body =>
    have hCollection : Scope.Agree names (collection.paths names) s s' :=
      h.mono fun path hPath => List.mem_append_left _ hPath
    have hBody : Scope.Agree names (body.paths (item :: index.toList ++ names)) s s' :=
      h.mono fun path hPath => List.mem_append_right _ hPath
    -- The scopes of the turns agree on the names of the loop, which the body has bound around it.
    have hTurn : (fun v i => body.evaluate registry (s.bind item v index i))
        = fun v i => body.evaluate registry (s'.bind item v index i) := by
      funext v i
      exact Part.evaluate_agree body (hBody.bind v i)
    rw [Part.evaluate, Part.evaluate, Part.evaluate_agree collection hCollection, hTurn]

theorem Part.evaluateAll_agree {registry : Registry} {names : List String} {s s' : Scope}
    (ps : List Part) (h : Scope.Agree names (Part.pathsAll names ps) s s') :
    Part.evaluateAll registry ps s = Part.evaluateAll registry ps s' := by
  match ps with
  | [] => rfl
  | p :: ps =>
    have hFirst : Scope.Agree names (p.paths names) s s' :=
      h.mono fun path hPath => List.mem_append_left _ hPath
    have hRest : Scope.Agree names (Part.pathsAll names ps) s s' :=
      h.mono fun path hPath => List.mem_append_right _ hPath
    rw [Part.evaluateAll, Part.evaluateAll, Part.evaluate_agree p hFirst,
      Part.evaluateAll_agree ps hRest]

end

/-- What a template evaluates to depends on the context only through the paths that it reports. -/
theorem Template.evaluate_eq_of_lookups (t : Template) (registry : Registry)
    (context context' : Fields)
    (h : ∀ path ∈ t.variablePaths, Path.find? context path = Path.find? context' path) :
    t.evaluate registry context = t.evaluate registry context' := by
  have hAgree : Scope.Agree [] (Part.pathsAll [] t.parts) (Scope.ofContext context)
      (Scope.ofContext context') := by
    refine ⟨rfl, fun name hName => ?_, fun path hPath => ?_⟩
    · cases hName
    · exact h path (List.mem_eraseDups.mpr hPath)
  unfold Template.evaluate
  dsimp only
  split
  · rfl
  · rename_i part hParts
    rw [hParts] at hAgree
    refine Part.evaluate_agree part (hAgree.mono fun path hPath => ?_)
    exact List.mem_append_left _ hPath
  · rw [Part.evaluateAll_agree t.parts hAgree]

/-- A loop over its own name, with a loop over the same name inside: the index of the inner loop is
not looked up in the context. -/
theorem Template.evaluate_eq_of_rebound :
    let t : Template := ⟨"", [.forEach "x" none (.variable "x")
      (.forEach "x" (some "i") (.variable "x") (.coalesce (.variable "i") (.variable "x")))]⟩
    let context : Fields := [("i", .boolean true), ("x", .list [.list [.null]])]
    let context' : Fields := [("i", .text "a"), ("x", .list [.list [.null]])]
    (∀ path ∈ t.variablePaths, Path.find? context path = Path.find? context' path) ∧
      t.evaluate Registry.empty context = t.evaluate Registry.empty context' := by
  intro t context context'
  have hPaths : t.variablePaths = ["x"] := by decide +kernel
  have hFound : ∀ path ∈ t.variablePaths, Path.find? context path = Path.find? context' path := by
    rw [hPaths]
    intro path hPath
    obtain rfl := List.mem_singleton.mp hPath
    refine Path.find?_congr fun root hRoot => ?_
    have hRootX : Path.rootName? "x" = some "x" := by decide +kernel
    cases hRootX.symm.trans hRoot
    rfl
  exact ⟨hFound, t.evaluate_eq_of_lookups Registry.empty context context' hFound⟩

end TextTemplate
