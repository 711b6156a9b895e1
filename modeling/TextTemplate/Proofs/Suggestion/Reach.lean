import TextTemplate.Path

/-!
# What can be reached below a value

The values inside of a value, each with the path to it, parents first; of a list, the first item
stands for all of them.

* `Value.reach`: all of them, in the order of the walk.
* `mem_reach_iff`: they are what paths lead to whose indices are zero, by induction on the path.
* `pairwise_reach`: their paths ascend, by induction on the value.
-/

namespace TextTemplate

/-- All objects in a value, at every depth, have a property. -/
inductive Value.Each (P : Fields → Prop) : Value → Prop
  | null : Each P .null
  | boolean (b : Bool) : Each P (.boolean b)
  | number (x : Number) : Each P (.number x)
  | text (s : String) : Each P (.text s)
  | list {items : List Value} : (∀ v ∈ items, Each P v) → Each P (.list items)
  | object {fields : Fields} :
      P fields → (∀ entry ∈ fields, Each P entry.2) → Each P (.object fields)

/-- A key before a later one, or an index before a greater one. -/
inductive Segment.Before : Segment → Segment → Prop
  | key {a b : String} : a < b → Before (.key a) (.key b)
  | index {i j : Nat} : i < j → Before (.index i) (.index j)

/-- Step by step; a path comes before those that go on from it. -/
abbrev Path.Before : Path → Path → Prop := List.Lex Segment.Before

theorem Path.Before.ne {a b : Path} (h : Path.Before a b) : a ≠ b := by
  rintro rfl
  refine List.lex_irrefl (fun segment hSegment => ?_) a h
  cases hSegment with
  | key hKey => exact String.lt_irrefl _ hKey
  | index hIndex => exact Nat.lt_irrefl _ hIndex

/-- Of a list, only the first item is visited. -/
def Path.FirstItems (path : Path) : Prop := ∀ i, .index i ∈ path → i = 0

theorem Path.firstItems_cons {segment : Segment} {rest : Path} :
    Path.FirstItems (segment :: rest) ↔
      (∀ i, segment = .index i → i = 0) ∧ Path.FirstItems rest := by
  simp only [FirstItems, List.mem_cons, or_imp, forall_and, eq_comm]

theorem Path.firstItems_key {name : String} {rest : Path} :
    Path.FirstItems (.key name :: rest) ↔ Path.FirstItems rest :=
  firstItems_cons.trans (and_iff_right nofun)

namespace Value

/-- An entry of what can be reached, seen from one step further up. -/
def through (segment : Segment) (entry : Path × Value) : Path × Value :=
  (segment :: entry.1, entry.2)

mutual

/-- Everything that can be reached from a value, parents first. -/
def reach : Value → List (Path × Value)
  | .object fields => ([], .object fields) :: reachFields fields
  | .list [] => [([], .list [])]
  | .list (first :: rest) => ([], .list (first :: rest)) :: first.reach.map (through (.index 0))
  | v => [([], v)]

def reachFields : List (String × Value) → List (Path × Value)
  | [] => []
  | (name, v) :: rest => v.reach.map (through (.key name)) ++ reachFields rest

end

/-! ## Membership -/

theorem mem_map_through {segment : Segment} {entries : List (Path × Value)} {path : Path}
    {w : Value} : (path, w) ∈ entries.map (through segment) ↔
      ∃ rest, path = segment :: rest ∧ (rest, w) ∈ entries := by
  constructor
  · intro h
    obtain ⟨⟨rest, u⟩, hMem, hEq⟩ := List.mem_map.mp h
    cases hEq
    exact ⟨rest, rfl, hMem⟩
  · rintro ⟨rest, rfl, hMem⟩
    exact List.mem_map_of_mem hMem

theorem mem_reachFields {fields : List (String × Value)} {path : Path} {w : Value} :
    (path, w) ∈ reachFields fields ↔
      ∃ name v rest, path = .key name :: rest ∧ (name, v) ∈ fields ∧ (rest, w) ∈ v.reach := by
  induction fields with
  | nil => simp [reachFields]
  | cons head more ih =>
    obtain ⟨k, u⟩ := head
    rw [reachFields, List.mem_append, mem_map_through, ih]
    constructor
    · rintro (⟨rest, rfl, hRest⟩ | ⟨name, v, rest, rfl, hMem, hRest⟩)
      · exact ⟨k, u, rest, rfl, List.mem_cons_self, hRest⟩
      · exact ⟨name, v, rest, rfl, List.mem_cons_of_mem _ hMem, hRest⟩
    · rintro ⟨name, v, rest, rfl, hMem, hRest⟩
      rcases List.mem_cons.mp hMem with hEq | hMem
      · cases hEq
        exact .inl ⟨rest, rfl, hRest⟩
      · exact .inr ⟨name, v, rest, rfl, hMem, hRest⟩

theorem nil_mem_reach {v w : Value} : ([], w) ∈ v.reach ↔ w = v := by
  cases v with
  | list items => cases items <;> simp [reach, mem_map_through]
  | object fields => simp [reach, mem_reachFields]
  | _ => simp [reach]

/-- One step of the walk is one step of a path, to the first item in the case of a list. -/
theorem cons_mem_reach {v w : Value} {segment : Segment} {rest : Path}
    (h : v.Each Table.Ordered) : (segment :: rest, w) ∈ v.reach ↔
      (∀ i, segment = .index i → i = 0) ∧
        ∃ u, Path.step? v segment = some u ∧ (rest, w) ∈ u.reach := by
  cases h with
  | @list items hItems =>
    cases items with
    | nil => cases segment <;> simp [reach, Path.step?]
    | cons first more =>
      cases segment with
      | key name => simp [reach, mem_map_through, Path.step?]
      | index i => cases i <;> simp [reach, mem_map_through, Path.step?]
  | @object fields hFields hEach =>
    cases segment with
    | key name =>
      -- A name stands there once, so what stands under it is what is found under it.
      simp only [reach, List.mem_cons, Prod.mk.injEq, List.cons_ne_nil, false_and, false_or,
        mem_reachFields, List.cons.injEq, Segment.key.injEq, Path.step?,
        ← Table.mem_iff_get? hFields]
      constructor
      · rintro ⟨_, u, _, ⟨rfl, rfl⟩, hMem, hRest⟩
        exact ⟨nofun, u, hMem, hRest⟩
      · rintro ⟨-, u, hMem, hRest⟩
        exact ⟨name, u, rest, ⟨rfl, rfl⟩, hMem, hRest⟩
    | index i => simp [reach, mem_reachFields, Path.step?]
  | _ => cases segment <;> simp [reach, Path.step?]

theorem Each.step {P : Fields → Prop} {v u : Value} {segment : Segment} (h : v.Each P)
    (hStep : Path.step? v segment = some u) : u.Each P := by
  cases h with
  | @list items hItems =>
    cases segment with
    | key name => cases hStep
    | index i => exact hItems u (List.mem_of_getElem? hStep)
  | @object fields hFields hEach =>
    cases segment with
    | key name => exact hEach (name, u) (Table.mem_of_get? hStep)
    | index i => cases hStep
  | _ => cases segment <;> cases hStep

/-- What can be reached is what paths lead to whose indices are zero. -/
theorem mem_reach_iff {v w : Value} {path : Path} (h : v.Each Table.Ordered) :
    (path, w) ∈ v.reach ↔ path.FirstItems ∧ Path.resolve? v path = some w := by
  induction path generalizing v with
  | nil => simp [nil_mem_reach, Path.FirstItems, Path.resolve?, eq_comm]
  | cons segment rest ih =>
    rw [cons_mem_reach h, Path.firstItems_cons, Path.resolve?, Option.bind_eq_some_iff, and_assoc]
    refine and_congr_right fun _ => ?_
    constructor
    · rintro ⟨u, hStep, hMem⟩
      obtain ⟨hRest, hResolve⟩ := (ih (h.step hStep)).mp hMem
      exact ⟨hRest, u, hStep, hResolve⟩
    · rintro ⟨hRest, u, hStep, hResolve⟩
      exact ⟨u, hStep, (ih (h.step hStep)).mpr ⟨hRest, hResolve⟩⟩

/-! ## Order -/

theorem pairwise_through {entries : List (Path × Value)} (segment : Segment)
    (h : (entries.map Prod.fst).Pairwise Path.Before) :
    ((entries.map (through segment)).map Prod.fst).Pairwise Path.Before := by
  have hPaths : (entries.map (through segment)).map Prod.fst
      = (entries.map Prod.fst).map (segment :: ·) := by
    simp only [List.map_map]
    rfl
  rw [hPaths, List.pairwise_map]
  exact h.imp fun hBefore => .cons hBefore

theorem pairwise_cons_through {entries : List (Path × Value)} (v : Value)
    (hSome : ∀ entry ∈ entries, entry.1 ≠ []) (h : (entries.map Prod.fst).Pairwise Path.Before) :
    ((([], v) :: entries).map Prod.fst).Pairwise Path.Before := by
  rw [List.map_cons, List.pairwise_cons]
  refine ⟨fun path hPath => ?_, h⟩
  obtain ⟨entry, hMem, rfl⟩ := List.mem_map.mp hPath
  obtain ⟨segment, rest, hCons⟩ := List.exists_cons_of_ne_nil (hSome entry hMem)
  rw [hCons]
  exact .nil

/-- What is below a field comes before what is below a later one. -/
theorem pairwise_reachFields {fields : Fields} (hFields : fields.Ordered)
    (h : ∀ entry ∈ fields, (entry.2.reach.map Prod.fst).Pairwise Path.Before) :
    ((reachFields fields).map Prod.fst).Pairwise Path.Before := by
  induction fields with
  | nil => exact List.Pairwise.nil
  | cons head more ih =>
    obtain ⟨name, v⟩ := head
    obtain ⟨hHead, hMore⟩ := List.pairwise_cons.mp hFields
    obtain ⟨hFirst, hRest⟩ := List.forall_mem_cons.mp h
    rw [reachFields, List.map_append, List.pairwise_append]
    refine ⟨pairwise_through _ hFirst, ih hMore hRest, fun a ha b hb => ?_⟩
    obtain ⟨⟨_, u⟩, hLeft, rfl⟩ := List.mem_map.mp ha
    obtain ⟨⟨_, w⟩, hRight, rfl⟩ := List.mem_map.mp hb
    obtain ⟨left, rfl, -⟩ := mem_map_through.mp hLeft
    obtain ⟨later, _, right, rfl, hMem, -⟩ := mem_reachFields.mp hRight
    exact .rel (.key (hHead (later, _) hMem))

/-- The paths to what can be reached ascend. -/
theorem pairwise_reach {v : Value} (h : v.Each Table.Ordered) :
    (v.reach.map Prod.fst).Pairwise Path.Before := by
  induction h with
  | @list items hItems ih =>
    cases items with
    | nil => exact List.pairwise_singleton _ _
    | cons first more =>
      refine pairwise_cons_through _ (fun entry hMem => ?_)
        (pairwise_through _ (ih first List.mem_cons_self))
      obtain ⟨inner, -, rfl⟩ := List.mem_map.mp hMem
      exact List.cons_ne_nil _ _
  | @object fields hFields hEach ih =>
    refine pairwise_cons_through _ (fun entry hMem => ?_) (pairwise_reachFields hFields ih)
    obtain ⟨name, v, rest, hPath, -⟩ := mem_reachFields.mp hMem
    rw [hPath]
    exact List.cons_ne_nil _ _
  | _ => exact List.pairwise_singleton _ _

end Value

end TextTemplate
