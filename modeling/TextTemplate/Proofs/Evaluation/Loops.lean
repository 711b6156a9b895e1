import Mathlib.Data.List.Sort
import TextTemplate.Proofs.Evaluation.Dependencies
import TextTemplate.Proofs.Evaluation.Steps

/-!
# Loops

A loop evaluates its body once for every element, each time in the scope around the loop with
nothing but the names of this turn added, and renders the results one after another. So a loop over
two lists in a row is the loop over the first and the loop over the second, which counts on.

* `TurnsGive`: the results of a run of turns.
* `renderTurns_append`: a run of turns in two halves, by induction on the first.
* `gives_or_fails`: all turns of a run have a result, or one of them is the first to fail.
* `Table.ofEntries_eq_of_perm`: a table does not depend on the order in which it was filled.
* `Loop.homomorphic`: what holds of every loop.
-/

namespace TextTemplate

/-! ## Runs of turns -/

/-- Each element has a result, the first one in the turn of index `start`. -/
def TurnsGive (turn : Value → Nat → Except EvalFault Value) (start : Nat)
    (elements results : List Value) : Prop :=
  List.Forall₂ (fun p result => turn p.1 p.2 = .ok result) (elements.zipIdx start) results

section Turns

variable {turn : Value → Nat → Except EvalFault Value}

theorem renderTurns_append (turn : Value → Nat → Except EvalFault Value) (elements more : List Value)
    (start : Nat) : renderTurns turn (elements ++ more) start = (do
      let text ← renderTurns turn elements start
      let others ← renderTurns turn more (start + elements.length)
      .ok (text ++ others)) := by
  induction elements generalizing start with
  | nil =>
    change renderTurns turn more start = _
    rw [renderTurns, List.length_nil, Nat.add_zero]
    cases renderTurns turn more start <;> rfl
  | cons v rest ih =>
    have hCount : start + (v :: rest).length = start + 1 + rest.length := by
      rw [List.length_cons, Nat.add_assoc, Nat.add_comm 1]
    rw [List.cons_append, renderTurns_cons, renderTurns_cons, ih, hCount]
    cases turn v start with
    | error f => rfl
    | ok result =>
      cases renderTurns turn rest (start + 1) with
      | error f => rfl
      | ok text =>
        cases renderTurns turn more (start + 1 + rest.length) with
        | error f => rfl
        | ok others => exact congrArg Except.ok (List.append_assoc _ _ _).symm

/-- Counting from a later index is the same as starting later. -/
theorem renderTurns_shift (turn : Value → Nat → Except EvalFault Value) (elements : List Value)
    (first start : Nat) :
    renderTurns (fun v i => turn v (first + i)) elements start
      = renderTurns turn elements (first + start) := by
  induction elements generalizing start with
  | nil => rfl
  | cons v rest ih => rw [renderTurns_cons, renderTurns_cons, ih, Nat.add_assoc]

theorem renderTurns_of_gives {elements results : List Value} {start : Nat}
    (h : TurnsGive turn start elements results) :
    renderTurns turn elements start = .ok (results.flatMap Value.render) := by
  induction elements generalizing start results with
  | nil =>
    cases h
    rfl
  | cons v rest ih =>
    unfold TurnsGive at h
    rw [List.zipIdx_cons] at h
    obtain _ | ⟨hFirst, hRest⟩ := h
    rw [renderTurns_cons, hFirst, ih hRest, List.flatMap_cons]
    rfl

theorem renderTurns_of_fails {before after results : List Value} {v : Value} {start : Nat}
    {f : EvalFault} (hBefore : TurnsGive turn start before results)
    (hFails : turn v (start + before.length) = .error f) :
    renderTurns turn (before ++ v :: after) start = .error f := by
  rw [renderTurns_append, renderTurns_of_gives hBefore, renderTurns_cons, hFails]
  rfl

/-- All turns have a result, or one of them is the first to fail. -/
theorem gives_or_fails (turn : Value → Nat → Except EvalFault Value) (elements : List Value)
    (start : Nat) : (∃ results, TurnsGive turn start elements results) ∨
      ∃ before v after results f, elements = before ++ v :: after ∧
        TurnsGive turn start before results ∧ turn v (start + before.length) = .error f := by
  induction elements generalizing start with
  | nil => exact .inl ⟨[], .nil⟩
  | cons v rest ih =>
    cases hFirst : turn v start with
    | error f => exact .inr ⟨[], v, rest, [], f, rfl, .nil, hFirst⟩
    | ok result =>
      rcases ih (start + 1) with ⟨results, hRest⟩ | ⟨before, w, after, results, f, rfl, hBefore, hw⟩
      · exact .inl ⟨result :: results, .cons hFirst hRest⟩
      · refine .inr ⟨v :: before, w, after, result :: results, f, rfl, .cons hFirst hBefore, ?_⟩
        rwa [List.length_cons, Nat.add_comm before.length, ← Nat.add_assoc]

theorem renderTurns_eq_ok_iff {elements : List Value} {start : Nat} {text : List Char} :
    renderTurns turn elements start = .ok text ↔
      ∃ results, TurnsGive turn start elements results ∧ text = results.flatMap Value.render := by
  constructor
  · intro h
    rcases gives_or_fails turn elements start with ⟨results, hGives⟩ | hFails
    · rw [renderTurns_of_gives hGives] at h
      cases h
      exact ⟨results, hGives, rfl⟩
    · obtain ⟨before, v, after, results, f, rfl, hBefore, hv⟩ := hFails
      rw [renderTurns_of_fails hBefore hv] at h
      cases h
  · rintro ⟨results, hGives, rfl⟩
    exact renderTurns_of_gives hGives

theorem renderTurns_eq_error_iff {elements : List Value} {start : Nat} {f : EvalFault} :
    renderTurns turn elements start = .error f ↔
      ∃ before v after results, elements = before ++ v :: after ∧
        TurnsGive turn start before results ∧ turn v (start + before.length) = .error f := by
  constructor
  · intro h
    rcases gives_or_fails turn elements start with ⟨results, hGives⟩ | hFails
    · rw [renderTurns_of_gives hGives] at h
      cases h
    · obtain ⟨before, v, after, results, g, rfl, hBefore, hv⟩ := hFails
      rw [renderTurns_of_fails hBefore hv] at h
      cases h
      exact ⟨before, v, after, results, rfl, hBefore, hv⟩
  · rintro ⟨before, v, after, results, rfl, hBefore, hv⟩
    exact renderTurns_of_fails hBefore hv

end Turns

/-! ## Tables that are filled in any order -/

namespace Table

universe u

variable {α : Type u}

theorem ordered_foldl_put (entries : List (String × α)) {table : Table α} (h : table.Ordered) :
    (entries.foldl (fun table (name, entry) => table.put name entry) table).Ordered := by
  induction entries generalizing table with
  | nil => exact h
  | cons head rest ih => exact ih (ordered_put h head.1 head.2)

theorem ordered_ofEntries (entries : List (String × α)) : (ofEntries entries).Ordered :=
  ordered_foldl_put entries List.Pairwise.nil

/-- Entries under different names, none of them in the table, are all added. -/
theorem perm_foldl_put {entries : List (String × α)} {table : Table α}
    (h : (entries.map Prod.fst ++ table.names).Nodup) :
    (entries.foldl (fun table (name, entry) => table.put name entry) table).Perm
      (entries ++ table) := by
  induction entries generalizing table with
  | nil => exact List.Perm.refl _
  | cons head rest ih =>
    obtain ⟨name, entry⟩ := head
    obtain ⟨hName, hRest⟩ := List.nodup_cons.mp h
    have hNew : name ∉ table.names := fun hMem => hName (List.mem_append_right _ hMem)
    have hMoved : (rest.map Prod.fst ++ (table.put name entry).names).Perm
        (name :: (rest.map Prod.fst ++ table.names)) :=
      ((perm_names_put hNew entry).append_left _).trans List.perm_middle
    have hPut : (rest ++ table.put name entry).Perm ((name, entry) :: (rest ++ table)) :=
      ((perm_put hNew entry).append_left rest).trans List.perm_middle
    exact (ih (hMoved.nodup_iff.mpr h)).trans hPut

theorem perm_ofEntries {entries : List (String × α)} (h : (entries.map Prod.fst).Nodup) :
    (ofEntries entries).Perm entries := by
  have hAll : (entries.map Prod.fst ++ names ([] : Table α)).Nodup := by
    rwa [names, List.map_nil, List.append_nil]
  have hPerm := perm_foldl_put hAll
  rwa [List.append_nil] at hPerm

/-- A table of entries under different names holds them by ascending name, in whatever order they
were put into it. -/
theorem ofEntries_eq_of_perm {entries : List (String × α)} {table : Table α}
    (hNames : (entries.map Prod.fst).Nodup) (h : table.Perm entries) (hOrdered : table.Ordered) :
    ofEntries entries = table := by
  have hPerm : (ofEntries entries).Perm table := (perm_ofEntries hNames).trans h.symm
  refine hPerm.eq_of_pairwise (fun a b _ _ hab hba => ?_) (ordered_ofEntries entries) hOrdered
  exact absurd (String.lt_trans hab hba) (String.lt_irrefl _)

end Table

/-! ## Loops without their collection -/

/-- What a loop over an object sees of a field. -/
def Value.ofField : String × Value → Value
  | (name, v) => .object [("key", .text name), ("value", v)]

theorem Value.rendered_text (s : String) : (Value.text s).rendered = s := String.ofList_toList

/-- A loop but for its collection: what is around it, the names it binds and its body. -/
structure Loop where
  registry : Registry
  scope : Scope
  item : String
  index : Option String
  body : Part

namespace Loop

/-- The scope of one turn. -/
def scopeOf (l : Loop) (v : Value) (i : Nat) : Scope := l.scope.bind l.item v l.index i

/-- What the body evaluates to in one turn. -/
def turn (l : Loop) (v : Value) (i : Nat) : Except EvalFault Value :=
  l.body.evaluate l.registry (l.scopeOf v i)

/-- The loop over a value, with an index that counts from `start` on. -/
def runFrom (l : Loop) (start : Nat) (v : Value) : Except EvalFault Value :=
  v.renderLoop fun v i => l.turn v (start + i)

theorem runFrom_list (l : Loop) (start : Nat) (elements : List Value) :
    l.runFrom start (.list elements) = (do
      let text ← renderTurns l.turn elements start
      .ok (.text (String.ofList text))) := by
  have hShift := renderTurns_shift l.turn elements start 0
  rw [Nat.add_zero] at hShift
  rw [← hShift]
  rfl

theorem runFrom_append (l : Loop) (start : Nat) (elements more : List Value) :
    l.runFrom start (.list (elements ++ more)) = (do
      let first ← l.runFrom start (.list elements)
      let second ← l.runFrom (start + elements.length) (.list more)
      .ok (.text (first.rendered ++ second.rendered))) := by
  rw [runFrom_list, runFrom_list, runFrom_list, renderTurns_append]
  cases renderTurns l.turn elements start with
  | error f => rfl
  | ok text =>
    cases renderTurns l.turn more (start + elements.length) with
    | error f => rfl
    | ok others =>
      change Except.ok (Value.text (String.ofList (text ++ others))) = .ok (.text (_ ++ _))
      rw [Value.rendered_text, Value.rendered_text, String.ofList_append]

theorem runFrom_eq_ok_iff {l : Loop} {start : Nat} {elements : List Value} {w : Value} :
    l.runFrom start (.list elements) = .ok w ↔ ∃ results, TurnsGive l.turn start elements results ∧
      w = .text (String.ofList (results.flatMap Value.render)) := by
  rw [runFrom_list]
  constructor
  · intro h
    cases hTurns : renderTurns l.turn elements start with
    | error f =>
      rw [hTurns] at h
      cases h
    | ok text =>
      rw [hTurns] at h
      cases h
      obtain ⟨results, hGives, rfl⟩ := renderTurns_eq_ok_iff.mp hTurns
      exact ⟨results, hGives, rfl⟩
  · rintro ⟨results, hGives, rfl⟩
    rw [renderTurns_of_gives hGives]
    rfl

theorem runFrom_eq_error_iff {l : Loop} {start : Nat} {elements : List Value} {f : EvalFault} :
    l.runFrom start (.list elements) = .error f ↔
      ∃ before v after results, elements = before ++ v :: after ∧
        TurnsGive l.turn start before results ∧ l.turn v (start + before.length) = .error f := by
  rw [runFrom_list, ← renderTurns_eq_error_iff]
  cases renderTurns l.turn elements start with
  | error g => simp only [bind, Except.bind, Except.error.injEq]
  | ok text => exact ⟨nofun, nofun⟩

/-- What holds of a loop over lists and objects. -/
structure Homomorphic (l : Loop) : Prop where
  /-- As a part, the loop runs over the value of its collection, and its index counts from zero. -/
  part (collection : Part) :
    (Part.forEach l.item l.index collection l.body).evaluate l.registry l.scope = (do
      let v ← collection.evaluate l.registry l.scope
      l.runFrom 0 v)
  /-- The text of two lists in a row is the text of the first, then the text of the second with
  its index values shifted by the length of the first. -/
  append (start : Nat) (elements more : List Value) :
    l.runFrom start (.list (elements ++ more)) = (do
      let first ← l.runFrom start (.list elements)
      let second ← l.runFrom (start + elements.length) (.list more)
      .ok (.text (first.rendered ++ second.rendered)))
  /-- If there is a text, it is made of the results of all turns in order. -/
  value (start : Nat) (elements : List Value) (w : Value) :
    l.runFrom start (.list elements) = .ok w ↔ ∃ results, TurnsGive l.turn start elements results ∧
      w = .text (String.ofList (results.flatMap Value.render))
  /-- If there is a fault, it is that of the first turn that fails. -/
  fault (start : Nat) (elements : List Value) (f : EvalFault) :
    l.runFrom start (.list elements) = .error f ↔
      ∃ before v after results, elements = before ++ v :: after ∧
        TurnsGive l.turn start before results ∧ l.turn v (start + before.length) = .error f
  /-- In a turn, the scope around the loop has the index and the item added; the index wins. -/
  values (v : Value) (i : Nat) (name : String) : (l.scopeOf v i).values.get? name =
    if l.index = some name then some (.number (Number.ofNat i))
    else if name = l.item then some v else l.scope.values.get? name
  coalescing (v : Value) (i : Nat) : (l.scopeOf v i).coalescing = l.scope.coalescing
  /-- An object is the list of its fields in the order of its table. -/
  object (start : Nat) (fields : Fields) :
    l.runFrom start (.object fields) = l.runFrom start (.list (fields.map Value.ofField))
  /-- This order is by ascending name, in whatever order the fields were put into the table. -/
  filled (start : Nat) (entries : List (String × Value)) (fields : Fields) :
    (entries.map Prod.fst).Nodup → fields.Perm entries → fields.Ordered →
      l.runFrom start (.object (Table.ofEntries entries))
        = l.runFrom start (.list (fields.map Value.ofField))

/-- Every loop is put together from the loops over the pieces of its collection, down to its single
turns. -/
theorem homomorphic (l : Loop) : l.Homomorphic where
  part collection := by
    have hStart : (fun v => l.runFrom 0 v) = fun v => v.renderLoop l.turn := by
      funext v
      unfold runFrom
      simp only [Nat.zero_add]
    rw [Part.evaluate_forEach, hStart]
    rfl
  append := l.runFrom_append
  value start elements w := runFrom_eq_ok_iff
  fault start elements f := runFrom_eq_error_iff
  values v i name := l.scope.get?_bind l.item v l.index i name
  coalescing v i := by
    unfold scopeOf Scope.bind
    cases l.index <;> rfl
  object start fields := rfl
  filled start entries fields hNames hPerm hOrdered := by
    rw [Table.ofEntries_eq_of_perm hNames hPerm hOrdered]
    rfl

/-- A loop over three texts, whose second piece counts from two on, and one over an object whose
fields were put into it against the order of their names. -/
theorem homomorphic_counted :
    let join : Function := fun args => .ok (.text (String.ofList (args.flatMap Value.render)))
    let registry := Registry.empty.setFunction "join" (Registry.undocumented "join" join)
    let l (path : String) : Loop :=
      ⟨registry, Scope.ofContext [], "x", some "i", .call "join" [.variable "i", .variable path]⟩
    let entries : List (String × Value) := [("b", .null), ("a", .boolean true)]
    let fields : Fields := [("a", .boolean true), ("b", .null)]
    ((l "x").runFrom 0 (.list [.text "a", .text "b"])).map Value.rendered = .ok "0a1b" ∧
      ((l "x").runFrom 2 (.list [.text "c"])).map Value.rendered = .ok "2c" ∧
      (l "x").runFrom 0 (.list [.text "a", .text "b", .text "c"]) = (do
        let first ← (l "x").runFrom 0 (.list [.text "a", .text "b"])
        let second ← (l "x").runFrom 2 (.list [.text "c"])
        .ok (.text (first.rendered ++ second.rendered))) ∧
      ((l "x.key").runFrom 0 (.object (Table.ofEntries entries))).map Value.rendered
        = .ok "0a1b" ∧
      (l "x.key").runFrom 0 (.object (Table.ofEntries entries))
        = (l "x.key").runFrom 0 (.list (fields.map Value.ofField)) := by
  intro join registry l entries fields
  have hOrdered : fields.Ordered := by
    unfold Table.Ordered
    decide
  refine ⟨by decide +kernel, by decide +kernel, ?_, by decide +kernel, ?_⟩
  · exact (l "x").homomorphic.append 0 [.text "a", .text "b"] [.text "c"]
  · exact (l "x.key").homomorphic.filled 0 entries fields (by decide) (List.Perm.swap _ _ _) hOrdered

end Loop

end TextTemplate
