import TextTemplate.Evaluation.Evaluate
import TextTemplate.Proofs.Path.Root
import TextTemplate.Template.Dependencies

/-!
# The name that is tested is the name that is looked up

The analysis of dependencies reads the root of a path from its text by itself, evaluation reads the
whole path. Where the path can be read, both find the same name, however its text is written. So a
variable is reported where no loop around it binds the name that evaluation looks up, and nowhere
else.

* `Part.Occurs`: a variable in a part, with the names that loops bind around it.
* `Part.mem_paths_iff`: the paths that a part reports, by induction on the part.
* `Path.Rooted`: what is done with the root of a path.
* `Path.roots_agree`: it is the first key of the path, for every text that is a path.
-/

namespace TextTemplate

/-! ## Variables and the loops around them -/

/-- The variable of the path stands in the part, inside of loops of the part that bind the names. -/
inductive Part.Occurs (path : String) : List String → Part → Prop
  | variable : Occurs path [] (.variable path)
  | argument {names : List String} {function : String} {args : List Part} {arg : Part} :
      arg ∈ args → Occurs path names arg → Occurs path names (.call function args)
  | left {names : List String} {left right : Part} :
      Occurs path names left → Occurs path names (.coalesce left right)
  | right {names : List String} {left right : Part} :
      Occurs path names right → Occurs path names (.coalesce left right)
  | collection {names : List String} {item : String} {index : Option String}
      {collection body : Part} :
      Occurs path names collection → Occurs path names (.forEach item index collection body)
  | body {names : List String} {item : String} {index : Option String} {collection body : Part} :
      Occurs path names body →
      Occurs path (item :: index.toList ++ names) (.forEach item index collection body)

/-- The variable of the path stands in the part where neither the loops around it nor the names bind
its root. -/
def Part.OccursFree (path : String) (bound : List String) (p : Part) : Prop :=
  ∃ names, p.Occurs path names ∧
    ∀ root, Path.rootName? path = some root → root ∉ names ∧ root ∉ bound

namespace Part

variable {path : String} {bound : List String}

theorem occursFree_variable {other : String} : (Part.variable other).OccursFree path bound ↔
    path = other ∧ ∀ root, Path.rootName? path = some root → root ∉ bound := by
  constructor
  · rintro ⟨names, hOccurs, hFree⟩
    cases hOccurs
    exact ⟨rfl, fun root hRoot => (hFree root hRoot).2⟩
  · rintro ⟨rfl, hFree⟩
    exact ⟨[], .variable, fun root hRoot => ⟨List.not_mem_nil, hFree root hRoot⟩⟩

theorem occursFree_call {function : String} {args : List Part} :
    (Part.call function args).OccursFree path bound ↔ ∃ arg ∈ args, arg.OccursFree path bound := by
  constructor
  · rintro ⟨names, hOccurs, hFree⟩
    cases hOccurs with
    | argument hMem hArg => exact ⟨_, hMem, names, hArg, hFree⟩
  · rintro ⟨arg, hMem, names, hArg, hFree⟩
    exact ⟨names, .argument hMem hArg, hFree⟩

theorem occursFree_coalesce {left right : Part} : (Part.coalesce left right).OccursFree path bound ↔
    left.OccursFree path bound ∨ right.OccursFree path bound := by
  constructor
  · rintro ⟨names, hOccurs, hFree⟩
    cases hOccurs with
    | left hLeft => exact .inl ⟨names, hLeft, hFree⟩
    | right hRight => exact .inr ⟨names, hRight, hFree⟩
  · rintro (⟨names, hLeft, hFree⟩ | ⟨names, hRight, hFree⟩)
    · exact ⟨names, .left hLeft, hFree⟩
    · exact ⟨names, .right hRight, hFree⟩

/-- The names of a loop are bound around its body, but not around its collection. -/
theorem occursFree_forEach {item : String} {index : Option String} {collection body : Part} :
    (Part.forEach item index collection body).OccursFree path bound ↔
      collection.OccursFree path bound ∨
        body.OccursFree path (item :: index.toList ++ bound) := by
  constructor
  · rintro ⟨names, hOccurs, hFree⟩
    cases hOccurs with
    | collection hCollection => exact .inl ⟨names, hCollection, hFree⟩
    | body hBody =>
      refine .inr ⟨_, hBody, fun root hRoot => ?_⟩
      obtain ⟨hInside, hOutside⟩ := hFree root hRoot
      rw [List.mem_append, not_or] at hInside ⊢
      exact ⟨hInside.2, hInside.1, hOutside⟩
  · rintro (⟨names, hCollection, hFree⟩ | ⟨names, hBody, hFree⟩)
    · exact ⟨names, .collection hCollection, hFree⟩
    · refine ⟨_, .body hBody, fun root hRoot => ?_⟩
      obtain ⟨hInside, hOutside⟩ := hFree root hRoot
      rw [List.mem_append, not_or] at hOutside ⊢
      exact ⟨⟨hOutside.1, hInside⟩, hOutside.2⟩

theorem paths_variable {root : String} (h : Path.rootName? path = some root) :
    (Part.variable path).paths bound = if root ∈ bound then [] else [path] := by
  simp only [Part.paths, h, List.contains_iff_mem]

theorem mem_paths_variable {other : String} : path ∈ (Part.variable other).paths bound ↔
    path = other ∧ ∀ root, Path.rootName? path = some root → root ∉ bound := by
  cases hRoot : Path.rootName? other with
  | none =>
    simp only [Part.paths, hRoot, List.mem_singleton]
    constructor
    · rintro rfl
      exact ⟨rfl, fun root h => by rw [hRoot] at h; cases h⟩
    · exact And.left
  | some root =>
    rw [paths_variable hRoot]
    constructor
    · intro h
      split at h
      · cases h
      · rename_i hFree
        obtain rfl := List.mem_singleton.mp h
        refine ⟨rfl, fun root' hRoot' => ?_⟩
        cases hRoot.symm.trans hRoot'
        exact hFree
    · rintro ⟨rfl, hFree⟩
      rw [if_neg (hFree root hRoot)]
      exact List.mem_singleton_self _

mutual

/-- A part reports the paths that stand where their root is not bound. -/
theorem mem_paths_iff {bound : List String} (p : Part) :
    path ∈ p.paths bound ↔ p.OccursFree path bound := by
  match p with
  | .text _ | .literal _ =>
    constructor
    · intro h
      cases h
    · rintro ⟨_, hOccurs, -⟩
      cases hOccurs
  | .variable other => rw [occursFree_variable, mem_paths_variable]
  | .call _ args => rw [occursFree_call, Part.paths, mem_pathsAll_iff args]
  | .coalesce left right =>
    rw [occursFree_coalesce, Part.paths, List.mem_append, mem_paths_iff left, mem_paths_iff right]
  | .forEach item index collection body =>
    rw [occursFree_forEach, Part.paths, List.mem_append, mem_paths_iff collection,
      mem_paths_iff body]

theorem mem_pathsAll_iff {bound : List String} (ps : List Part) :
    path ∈ Part.pathsAll bound ps ↔ ∃ p ∈ ps, p.OccursFree path bound := by
  match ps with
  | [] => simp [Part.pathsAll]
  | p :: ps =>
    rw [Part.pathsAll, List.mem_append, mem_paths_iff p, mem_pathsAll_iff ps]
    simp only [List.mem_cons, exists_eq_or_imp]

end

end Part

/-! ## Roots -/

namespace Path

/-- The root is what is read from the text of a path by itself, what is tested against the names of
loops, and what is looked up in scopes and registries before the rest of the path is followed. -/
structure Rooted (text root : String) (rest : Path) : Prop where
  named : rootName? text = some root
  tested (bound : List String) :
    (Part.variable text).paths bound = if root ∈ bound then [] else [text]
  lookedUp (s : Scope) (registry : Registry) : s.lookup? registry text
    = ((s.values.get? root).bind (resolve? · rest)).or
      ((registry.bindings.get? root).bind (resolve? · rest))
  /-- A part reports the path where the root is not bound. -/
  reported (p : Part) (bound : List String) : text ∈ p.paths bound ↔
    ∃ names, p.Occurs text names ∧ root ∉ names ∧ root ∉ bound
  /-- A template depends on the path if it stands outside of all loops that bind the root. -/
  dependency (t : Template) : text ∈ t.variablePaths ↔
    ∃ p ∈ t.parts, ∃ names, p.Occurs text names ∧ root ∉ names

theorem occursFree_iff {text root : String} (h : rootName? text = some root) {p : Part}
    {bound : List String} : p.OccursFree text bound ↔
      ∃ names, p.Occurs text names ∧ root ∉ names ∧ root ∉ bound := by
  simp only [Part.OccursFree, h, Option.some.injEq, forall_eq']

/-- Both readings of the root of a path agree. -/
theorem roots_agree {text : String} {path : Path} (h : parse? text = some path) :
    ∃ root rest, path = .key root :: rest ∧ Rooted text root rest := by
  obtain ⟨root, rest, rfl, hRoot⟩ := rootName?_of_parse? h
  refine ⟨root, rest, rfl, hRoot, fun bound => Part.paths_variable hRoot, fun s registry => ?_,
    fun p bound => ?_, fun t => ?_⟩
  · rw [Scope.lookup?, h]
    rfl
  · rw [Part.mem_paths_iff, occursFree_iff hRoot]
  · rw [Template.variablePaths, List.mem_eraseDups, Part.mem_pathsAll_iff]
    simp only [occursFree_iff hRoot, List.not_mem_nil, not_false_eq_true, and_true]

/-- White space of any kind around the keys and inside of the brackets. -/
theorem roots_agree_spaced :
    let text := "\u00a0items [ 0 ]. näme\t"
    let path : Path := [.key "items", .index 0, .key "näme"]
    parse? text = some path ∧ Rooted text "items" [.index 0, .key "näme"] := by
  intro text path
  have hPath : parse? text = some path := by decide +kernel
  obtain ⟨root, rest, hEq, hRooted⟩ := roots_agree hPath
  obtain ⟨hKey, rfl⟩ := List.cons.inj hEq
  cases hKey
  exact ⟨hPath, hRooted⟩

end Path

end TextTemplate
