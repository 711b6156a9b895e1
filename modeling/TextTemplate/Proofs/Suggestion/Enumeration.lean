import TextTemplate.Evaluation.Evaluate
import TextTemplate.Proofs.Path.Joined
import TextTemplate.Proofs.Reader.RoundTrip
import TextTemplate.Proofs.Suggestion.Reach
import TextTemplate.Suggestion.Listing

/-!
# Suggestions list what can be reached

The suggestions of a registry whose names can be written in expressions are its paths through first
items, in order, each once; and each can be inserted, and evaluates to the value that it describes.

* `ofVariables_eq`: the suggestions are made from what can be reached, by induction on the values.
* `Registry.yields_of_resolve?`: the path parser, the expression parser and the evaluation agree on
  the text of a path.
* `Describes`: what a suggestion says of a value.
* `enumerates_of_named`: the statement for all suggestions of a registry.
-/

namespace TextTemplate

open Lexer

/-! ## Insertion -/

/-- In a placeholder by itself and without a context, an expression evaluates to a value. -/
def Registry.Yields (registry : Registry) (expression : String) (v : Value) : Prop :=
  ∃ t, Template.parse ("$\x7b" ++ expression ++ "\x7d") = .ok t ∧ t.evaluate registry [] = .ok v

theorem readSegment_first : ReadSegment (.index 0) :=
  ⟨Number.ofNat 0, 0, by decide +kernel, (Nat.zero_min _).symm⟩

/-- A variable in a placeholder is read back from its source. -/
theorem Template.parse_variable {path : String} (h : Emitted (.variable path)) :
    ∃ t, Template.parse ("$\x7b" ++ path ++ "\x7d") = .ok t ∧ t.parts = [.variable path] := by
  have hText : ("$\x7b" ++ path ++ "\x7d").toList = [Part.variable path].flatMap Part.placed := by
    simp [Part.placed, Part.source_variable]
  obtain ⟨ps, again, hCut, hRead, hSame⟩ :=
    cut_of_laid (.placeholder h .nil) ("$\x7b" ++ path ++ "\x7d").toList 0
  obtain ⟨q, rest, rfl, hFirst, hRest⟩ := Part.sameAll_cons hSame
  cases Part.eq_variable_of_same hFirst
  cases Part.sameAll_nil hRest
  refine ⟨⟨"$\x7b" ++ path ++ "\x7d", [.variable path]⟩, ?_, rfl⟩
  have hPieces : Piece.pieces ("$\x7b" ++ path ++ "\x7d").toList = ps := by
    rw [hText]
    exact Piece.pieces_of_cut hCut
  rw [Template.parse, hPieces, hRead]

/-- The text of a path yields the value that the path leads to. -/
theorem Registry.yields_of_resolve? {registry : Registry} {root : String} {path : Path} {v : Value}
    (hRoot : IsIdentifier root) (hPath : ∀ segment ∈ path, ReadSegment segment)
    (h : registry.resolve? (.key root :: path) = some v) :
    registry.Yields (String.ofList (Path.join (.key root :: path))) v := by
  obtain ⟨t, hParse, hParts⟩ := Template.parse_variable (.path hRoot hPath)
  refine ⟨t, hParse, ?_⟩
  have hRead := Path.parse?_join hRoot.word.legible fun segment hMem => (hPath segment hMem).legible
  have hEmpty : Path.resolveIn? [] (.key root :: path) = none := rfl
  have hLookup : (Scope.ofContext []).lookup? registry
      (String.ofList (Path.join (.key root :: path))) = some v := by
    rw [Scope.lookup?, hRead]
    dsimp only
    rw [Scope.ofContext, hEmpty, Option.none_or, h]
  rw [Template.evaluate, hParts]
  dsimp only
  rw [Part.evaluate, hLookup]

/-! ## The walk -/

namespace Suggestion

/-- The expression of what a path leads to from an expression. -/
def expressionAt (expression : String) (path : Path) : String :=
  expression ++ String.ofList (Path.joinRest path)

theorem expressionAt_key (expression name : String) (path : Path) :
    expressionAt expression (.key name :: path) = expressionAt (fieldOf expression name) path := by
  simp [expressionAt, fieldOf, Path.joinRest, ← String.toList_inj]

theorem expressionAt_index (expression : String) (path : Path) :
    expressionAt expression (.index 0 :: path) = expressionAt (firstItemOf expression) path := by
  have hDigits : Nat.toDigits 10 0 = ['0'] := rfl
  simp [expressionAt, firstItemOf, Path.joinRest, Segment.text, hDigits, ← String.toList_inj]

/-- The suggestion of an entry of what can be reached. -/
def ofEntry (settings : SuggestionSettings) (expression : String) (isNested : Bool)
    (entry : Path × Value) : Suggestion :=
  ofValue settings (expressionAt expression entry.1) (isNested || !entry.1.isEmpty) entry.2

theorem ofEntry_nil (settings : SuggestionSettings) (expression : String) (isNested : Bool)
    (v : Value) :
    ofEntry settings expression isNested ([], v) = ofValue settings expression isNested v := by
  simp [ofEntry, expressionAt, Path.joinRest]

/-- Seen from one step further down, everything is nested. -/
theorem map_ofEntry_through {settings : SuggestionSettings} {expression inner : String}
    {segment : Segment}
    (h : ∀ path, expressionAt expression (segment :: path) = expressionAt inner path)
    (isNested : Bool) (entries : List (Path × Value)) :
    (entries.map (Value.through segment)).map (ofEntry settings expression isNested)
      = entries.map (ofEntry settings inner true) := by
  rw [List.map_map]
  refine List.map_congr_left fun entry _ => ?_
  simp [ofEntry, Value.through, h]

mutual

theorem below_eq (settings : SuggestionSettings) (expression : String) (isNested : Bool)
    (v : Value) :
    below settings expression isNested v = v.reach.map (ofEntry settings expression isNested) := by
  match v with
  | .object fields =>
    rw [below, Value.reach, List.map_cons, ofEntry_nil, belowFields_eq settings expression isNested]
  | .list [] => rw [below, Value.reach, List.map_cons, ofEntry_nil, List.map_nil]
  | .list (first :: rest) =>
    rw [below, Value.reach, List.map_cons, ofEntry_nil, below_eq settings _ true first,
      map_ofEntry_through (expressionAt_index expression)]
  | .null | .boolean _ | .number _ | .text _ =>
    rw [below, Value.reach, List.map_cons, ofEntry_nil, List.map_nil] <;> simp

theorem belowFields_eq (settings : SuggestionSettings) (expression : String) (isNested : Bool)
    (fields : List (String × Value)) : belowFields settings expression fields
      = (Value.reachFields fields).map (ofEntry settings expression isNested) := by
  match fields with
  | [] => rfl
  | (name, v) :: rest =>
    rw [belowFields, Value.reachFields, List.map_append, below_eq settings _ true v,
      map_ofEntry_through (expressionAt_key expression name),
      belowFields_eq settings expression isNested rest]

end

/-- The suggestion of what a path leads to. -/
def ofPath (settings : SuggestionSettings) (entry : Path × Value) : Suggestion :=
  ofValue settings (String.ofList (Path.join entry.1)) (decide (1 < entry.1.length)) entry.2

theorem ofVariables_eq (settings : SuggestionSettings) (bindings : Fields) :
    ofVariables settings bindings = (Value.reachFields bindings).map (ofPath settings) := by
  unfold ofVariables
  induction bindings with
  | nil => rfl
  | cons head rest ih =>
    obtain ⟨name, v⟩ := head
    have hFirst : v.reach.map (ofEntry settings name false)
        = (v.reach.map (Value.through (.key name))).map (ofPath settings) := by
      rw [List.map_map]
      refine List.map_congr_left fun entry _ => ?_
      -- Only a variable itself is not nested; its name has no point in front of it.
      cases hPath : entry.1 <;>
        simp [ofEntry, ofPath, Value.through, expressionAt, Path.join, Segment.text, hPath]
    rw [List.flatMap_cons, Value.reachFields, List.map_append, ih, ← hFirst, ← below_eq]

/-- The suggestions that are no functions. -/
def values (settings : SuggestionSettings) (registry : Registry) : List Suggestion :=
  (all settings registry).filter fun s => !s.isFunction

theorem values_eq (settings : SuggestionSettings) (registry : Registry) :
    values settings registry
      = (Value.reachFields registry.bindings).map (ofPath settings) := by
  have hVariables : (ofVariables settings registry.bindings).filter (fun s => !s.isFunction)
      = ofVariables settings registry.bindings := by
    refine List.filter_eq_self.mpr fun s hs => ?_
    rw [ofVariables_eq] at hs
    obtain ⟨entry, -, rfl⟩ := List.mem_map.mp hs
    rfl
  rw [values, all, List.filter_append, hVariables, ofVariables_eq]
  refine List.append_right_eq_self.mpr (List.filter_eq_nil_iff.mpr fun s hs => ?_)
  obtain ⟨entry, -, rfl⟩ := List.mem_map.mp hs
  simp [ofFunction]

end Suggestion

/-! ## Registries with names for expressions -/

/-- The names of the fields of a value can be written in expressions. -/
abbrev Value.Named (v : Value) : Prop :=
  v.Each fun fields => fields.Ordered ∧ ∀ field ∈ fields, IsWord field.1

/-- Variables are named by identifiers, and fields at every depth by words; all tables are in
order. -/
structure Registry.Named (registry : Registry) : Prop where
  ordered : registry.bindings.Ordered
  roots (entry : String × Value) : entry ∈ registry.bindings → IsIdentifier entry.1
  values (entry : String × Value) : entry ∈ registry.bindings → entry.2.Named

/-- Variables, and fields at every depth, are named by words; all tables are in order. -/
structure Registry.Spelled (registry : Registry) : Prop where
  ordered : registry.bindings.Ordered
  roots (entry : String × Value) : entry ∈ registry.bindings → IsWord entry.1
  values (entry : String × Value) : entry ∈ registry.bindings → entry.2.Named

theorem Registry.Named.spelled {registry : Registry} (h : registry.Named) : registry.Spelled :=
  ⟨h.ordered, fun entry hMem => (h.roots entry hMem).word, h.values⟩

theorem Registry.named_empty : Registry.empty.Named :=
  ⟨List.Pairwise.nil, List.forall_mem_nil _, List.forall_mem_nil _⟩

theorem Registry.Named.setVariable {registry : Registry} (h : registry.Named) {name : String}
    {v : Value} (hName : IsIdentifier name) (hValue : v.Named) :
    (registry.setVariable name v).Named := by
  refine ⟨Table.ordered_put h.ordered name v, fun entry hMem => ?_, fun entry hMem => ?_⟩
  · rcases Table.mem_put hMem with rfl | hMem
    · exact hName
    · exact h.roots entry hMem
  · rcases Table.mem_put hMem with rfl | hMem
    · exact hValue
    · exact h.values entry hMem

theorem Value.named_field {name : String} {v : Value} (hName : IsWord name) (hValue : v.Named) :
    (Value.object [(name, v)]).Named :=
  .object ⟨List.pairwise_singleton _ _, List.forall_mem_singleton.mpr hName⟩
    (List.forall_mem_singleton.mpr hValue)

theorem Value.Each.mono {P Q : Fields → Prop} (hImp : ∀ fields, P fields → Q fields) {v : Value}
    (h : v.Each P) : v.Each Q := by
  induction h with
  | null => exact .null
  | boolean b => exact .boolean b
  | number x => exact .number x
  | text s => exact .text s
  | list _ ih => exact .list ih
  | object hFields _ ih => exact .object (hImp _ hFields) ih

/-- A path below a value, through first items and fields that are words, is read from its text. -/
theorem readSegments_of_resolve? {v w : Value} {path : Path}
    (h : v.Each fun fields => ∀ field ∈ fields, IsWord field.1) (hFirst : path.FirstItems)
    (hResolve : Path.resolve? v path = some w) : ∀ segment ∈ path, ReadSegment segment := by
  induction path generalizing v with
  | nil => exact List.forall_mem_nil _
  | cons segment rest ih =>
    obtain ⟨u, hStep, hRest⟩ := Option.bind_eq_some_iff.mp hResolve
    obtain ⟨hSegment, hLater⟩ := Path.firstItems_cons.mp hFirst
    refine List.forall_mem_cons.mpr ⟨?_, ih (h.step hStep) hLater hRest⟩
    cases segment with
    | index i =>
      obtain rfl := hSegment i rfl
      exact readSegment_first
    | key name =>
      cases h with
      | object hFields _ => exact hFields _ (Table.mem_of_get? hStep)
      | _ => cases hStep

theorem Registry.resolve?_eq_some_iff {registry : Registry} {path : Path} {v : Value} :
    registry.resolve? path = some v ↔ ∃ root rest u, path = .key root :: rest ∧
      registry.bindings.get? root = some u ∧ Path.resolve? u rest = some v := by
  constructor
  · intro h
    match path, h with
    | .key root :: rest, h =>
      obtain ⟨u, hGet, hRest⟩ := Option.bind_eq_some_iff.mp h
      exact ⟨root, rest, u, rfl, hGet, hRest⟩
  · rintro ⟨root, rest, u, rfl, hGet, hRest⟩
    exact Option.bind_eq_some_iff.mpr ⟨u, hGet, hRest⟩

namespace Registry.Spelled

variable {registry : Registry} (h : registry.Spelled)

include h

theorem each_ordered {entry : String × Value} (hMem : entry ∈ registry.bindings) :
    entry.2.Each Table.Ordered := (h.values entry hMem).mono fun _ hFields => hFields.1

theorem mem_reachFields_iff {path : Path} {v : Value} :
    (path, v) ∈ Value.reachFields registry.bindings ↔
      path.FirstItems ∧ registry.resolve? path = some v := by
  rw [Value.mem_reachFields, Registry.resolve?_eq_some_iff]
  constructor
  · rintro ⟨name, u, rest, rfl, hMem, hReach⟩
    obtain ⟨hFirst, hRest⟩ := (Value.mem_reach_iff (h.each_ordered hMem)).mp hReach
    exact ⟨Path.firstItems_key.mpr hFirst, name, rest, u, rfl,
      (Table.mem_iff_get? h.ordered).mp hMem, hRest⟩
  · rintro ⟨hFirst, root, rest, u, rfl, hGet, hRest⟩
    have hMem := Table.mem_of_get? hGet
    exact ⟨root, u, rest, rfl, hMem, (Value.mem_reach_iff (h.each_ordered hMem)).mpr
      ⟨Path.firstItems_key.mp hFirst, hRest⟩⟩

theorem pairwise_reachFields :
    ((Value.reachFields registry.bindings).map Prod.fst).Pairwise Path.Before :=
  Value.pairwise_reachFields h.ordered fun _ hMem => Value.pairwise_reach (h.each_ordered hMem)

/-- A path through first items starts with the name of a variable and goes on with steps that are
read from their text. -/
theorem readable {path : Path} {v : Value} (hFirst : path.FirstItems)
    (hResolve : registry.resolve? path = some v) :
    ∃ root rest, path = .key root :: rest ∧ (∃ u, (root, u) ∈ registry.bindings) ∧
      ∀ segment ∈ rest, ReadSegment segment := by
  obtain ⟨root, rest, u, rfl, hGet, hRest⟩ := Registry.resolve?_eq_some_iff.mp hResolve
  have hMem := Table.mem_of_get? hGet
  have hWords := (h.values _ hMem).mono fun _ hFields => hFields.2
  exact ⟨root, rest, rfl, ⟨u, hMem⟩,
    readSegments_of_resolve? hWords (Path.firstItems_key.mp hFirst) hRest⟩

end Registry.Spelled

namespace Registry.Named

variable {registry : Registry} (h : registry.Named)

include h

theorem mem_reachFields_iff {path : Path} {v : Value} :
    (path, v) ∈ Value.reachFields registry.bindings ↔
      path.FirstItems ∧ registry.resolve? path = some v := h.spelled.mem_reachFields_iff

theorem pairwise_reachFields :
    ((Value.reachFields registry.bindings).map Prod.fst).Pairwise Path.Before :=
  h.spelled.pairwise_reachFields

/-- A path through first items starts with an identifier and goes on with steps that are read from
their text. -/
theorem readable {path : Path} {v : Value} (hFirst : path.FirstItems)
    (hResolve : registry.resolve? path = some v) :
    ∃ root rest, path = .key root :: rest ∧ IsIdentifier root ∧
      ∀ segment ∈ rest, ReadSegment segment := by
  obtain ⟨root, rest, hPath, ⟨u, hMem⟩, hRest⟩ := h.spelled.readable hFirst hResolve
  exact ⟨root, rest, hPath, h.roots _ hMem, hRest⟩

end Registry.Named

/-! ## What suggestions say -/

namespace Suggestion

/-- A suggestion of a path describes the value that the path leads to. -/
structure Describes (registry : Registry) (path : Path) (v : Value) (s : Suggestion) : Prop where
  read : Path.parse? s.expression = some path
  yields : registry.Yields s.expression v
  type : s.type = v.typeName
  children : s.children = (v.asObject?.map Table.names).getD []
  length : s.list.map ListSummary.length = v.asList?.map List.length
  itemType : s.list.map ListSummary.itemType
    = v.asList?.map fun items => (items.head?.map Value.typeName).getD "unknown"
  /-- The expression of the first item yields the first item. -/
  firstItem (l : ListSummary) : s.list = some l →
    Path.parse? l.firstItem = some (path ++ [.index 0]) ∧
      ∀ item, Path.step? v (.index 0) = some item → registry.Yields l.firstItem item
  isNested : s.isNested = true ↔ 1 < path.length
  depth : s.depth + 1 = path.length

/-- All that a suggestion says but the sample. -/
def withoutSample (s : Suggestion) : Suggestion := { s with sample := .null }

/-- The suggestions that are no functions list the paths through first items. -/
structure Enumerates (settings : SuggestionSettings) (registry : Registry) : Prop where
  /-- All of them, each once, in ascending order. -/
  listed : ∃ paths : List Path,
    (values settings registry).map (fun s => Path.parse? s.expression) = paths.map some ∧
      (∀ path, path ∈ paths ↔ path.FirstItems ∧ ∃ v, registry.resolve? path = some v) ∧
      paths.Pairwise Path.Before ∧ paths.Nodup
  described (s : Suggestion) : s ∈ values settings registry →
    ∃ path v, registry.resolve? path = some v ∧ s.Describes registry path v
  /-- Other settings can only change the samples. -/
  unaffected (other : SuggestionSettings) :
    (values other registry).map withoutSample = (values settings registry).map withoutSample

theorem firstItemOf_join {path : Path} (h : path ≠ []) :
    firstItemOf (String.ofList (Path.join path))
      = String.ofList (Path.join (path ++ [Segment.index 0])) := by
  rw [Path.join_append h, String.ofList_append]
  rfl

theorem resolve?_append (v : Value) (path more : Path) :
    Path.resolve? v (path ++ more) = (Path.resolve? v path).bind fun w => Path.resolve? w more := by
  induction path generalizing v with
  | nil => rfl
  | cons segment rest ih =>
    rw [List.cons_append, Path.resolve?, Path.resolve?, Option.bind_assoc]
    exact congrArg _ (funext fun w => ih w)

theorem children_ofValue (settings : SuggestionSettings) (expression : String) (isNested : Bool)
    (v : Value) : (ofValue settings expression isNested v).children
      = (v.asObject?.map Table.names).getD [] := by
  cases v <;> rfl

theorem length_list_ofValue (settings : SuggestionSettings) (expression : String) (isNested : Bool)
    (v : Value) : (ofValue settings expression isNested v).list.map ListSummary.length
      = v.asList?.map List.length := by
  cases v with
  | list items => cases items <;> rfl
  | _ => rfl

theorem itemType_list_ofValue (settings : SuggestionSettings) (expression : String)
    (isNested : Bool) (v : Value) :
    (ofValue settings expression isNested v).list.map ListSummary.itemType
      = v.asList?.map fun items => (items.head?.map Value.typeName).getD "unknown" := by
  cases v with
  | list items => cases items <;> rfl
  | _ => rfl

theorem firstItem_ofValue {settings : SuggestionSettings} {expression : String} {isNested : Bool}
    {v : Value} {l : ListSummary} (h : (ofValue settings expression isNested v).list = some l) :
    l.firstItem = firstItemOf expression := by
  cases v with
  | list items => cases items <;> (cases h; rfl)
  | _ => cases h

theorem describes_ofPath {registry : Registry} (h : registry.Named) (settings : SuggestionSettings)
    {path : Path} {v : Value} (hFirst : path.FirstItems)
    (hResolve : registry.resolve? path = some v) :
    (ofPath settings (path, v)).Describes registry path v := by
  obtain ⟨root, rest, rfl, hRoot, hRest⟩ := h.readable hFirst hResolve
  have hLegible : ∀ segment ∈ rest, segment.Legible := fun segment hMem =>
    (hRest segment hMem).legible
  refine {
    read := Path.parse?_join hRoot.word.legible hLegible
    yields := registry.yields_of_resolve? hRoot hRest hResolve
    type := rfl
    children := children_ofValue settings _ _ v
    length := length_list_ofValue settings _ _ v
    itemType := itemType_list_ofValue settings _ _ v
    firstItem := fun l hl => ?_
    isNested := decide_eq_true_iff
    depth := ?_ }
  · have hItem : ∀ segment ∈ rest ++ [.index 0], ReadSegment segment :=
      List.forall_mem_append.mpr ⟨hRest, List.forall_mem_singleton.mpr readSegment_first⟩
    rw [firstItem_ofValue hl, firstItemOf_join (List.cons_ne_nil _ _), List.cons_append]
    refine ⟨Path.parse?_join hRoot.word.legible fun segment hMem => (hItem segment hMem).legible,
      fun item hStep => registry.yields_of_resolve? hRoot hItem ?_⟩
    obtain ⟨_, _, u, hPath, hGet, hBelow⟩ := Registry.resolve?_eq_some_iff.mp hResolve
    cases hPath
    refine Registry.resolve?_eq_some_iff.mpr ⟨_, _, u, rfl, hGet, ?_⟩
    rw [resolve?_append, hBelow, Option.bind_some, Path.resolve?, hStep]
    rfl
  · have hDepth : (ofPath settings (.key root :: rest, v)).depth
        = (Path.join (.key root :: rest)).countP Path.startsStep :=
      congrArg (List.countP Path.startsStep) String.toList_ofList
    rw [hDepth]
    exact Path.length_eq_countP hRoot.word.legible hLegible

/-- The suggestions of a registry whose names can be written in expressions are its paths through
first items, and describe the values that these lead to. -/
theorem enumerates_of_named {registry : Registry} (h : registry.Named)
    (settings : SuggestionSettings) : Enumerates settings registry := by
  refine ⟨⟨(Value.reachFields registry.bindings).map Prod.fst, ?_, fun path => ?_,
    h.pairwise_reachFields, h.pairwise_reachFields.imp Path.Before.ne⟩, fun s hs => ?_,
    fun other => ?_⟩
  · rw [values_eq, List.map_map, List.map_map]
    refine List.map_congr_left fun ⟨path, v⟩ hMem => ?_
    obtain ⟨hFirst, hResolve⟩ := h.mem_reachFields_iff.mp hMem
    exact (describes_ofPath h settings hFirst hResolve).read
  · rw [List.mem_map]
    constructor
    · rintro ⟨⟨_, v⟩, hMem, rfl⟩
      obtain ⟨hFirst, hResolve⟩ := h.mem_reachFields_iff.mp hMem
      exact ⟨hFirst, v, hResolve⟩
    · rintro ⟨hFirst, v, hResolve⟩
      exact ⟨(path, v), h.mem_reachFields_iff.mpr ⟨hFirst, hResolve⟩, rfl⟩
  · rw [values_eq] at hs
    obtain ⟨⟨path, v⟩, hMem, rfl⟩ := List.mem_map.mp hs
    obtain ⟨hFirst, hResolve⟩ := h.mem_reachFields_iff.mp hMem
    exact ⟨path, v, hResolve, describes_ofPath h settings hFirst hResolve⟩
  · rw [values_eq, values_eq, List.map_map, List.map_map]
    exact List.map_congr_left fun entry _ => rfl

/-- Lists in objects in lists, with fields that are no identifiers. -/
theorem enumerates_rows :
    let row : Value := .object [("null", .text "x"), ("true", .list [])]
    let data : Value := .list [.object [("rows", .list [.list [row], .null])], .boolean true]
    let registry := (Registry.empty.setVariable "data" data).setVariable "count" (.text "2")
    registry.Named ∧ Enumerates {} registry ∧
      (values {} registry).map Suggestion.expression
        = ["count", "data", "data[0]", "data[0].rows", "data[0].rows[0]", "data[0].rows[0][0]",
          "data[0].rows[0][0].null", "data[0].rows[0][0].true"] := by
  intro row data registry
  have hRow : row.Named := by
    refine .object ⟨by unfold Table.Ordered; decide +kernel, by decide +kernel⟩ ?_
    exact List.forall_mem_cons.mpr ⟨.text "x",
      List.forall_mem_singleton.mpr (.list (List.forall_mem_nil _))⟩
  have hRows : (Value.list [.list [row], .null]).Named := by
    refine .list (List.forall_mem_cons.mpr ⟨.list ?_, List.forall_mem_singleton.mpr .null⟩)
    exact List.forall_mem_singleton.mpr hRow
  have hData : data.Named := by
    refine .list (List.forall_mem_cons.mpr ⟨.object ⟨?_, by decide +kernel⟩ ?_, ?_⟩)
    · exact List.pairwise_singleton _ _
    · exact List.forall_mem_singleton.mpr hRows
    · exact List.forall_mem_singleton.mpr (.boolean true)
  have hNamed : registry.Named :=
    (Registry.named_empty.setVariable (by decide +kernel) hData).setVariable (by decide +kernel)
      (.text "2")
  exact ⟨hNamed, enumerates_of_named hNamed {}, by decide +kernel⟩

end Suggestion

end TextTemplate
