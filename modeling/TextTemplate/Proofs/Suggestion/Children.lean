import Mathlib.Data.List.Lex
import Mathlib.Data.List.Sort
import TextTemplate.Proofs.Path.Codec
import TextTemplate.Proofs.Suggestion.Enumeration
import TextTemplate.Suggestion.Completion

/-!
# The suggestions below a path

Suggestions are searched by their texts. Since paths are read back from their texts, such a search
finds what it would find among the paths, and in the order of the paths.

* `isChildOf_join`: a text is one key below another one just if its path is.
* `filter_all`: a search gives the paths of a list that ascends and has the right members.
* `filter_text`: the suggestions with the text of a path.
* `childrenOf_all`: the suggestions one key below a path are the fields of what it leads to.
-/

namespace TextTemplate

open Lexer

theorem Text.afterStart?_eq_some_iff {start text rest : List Char} :
    afterStart? start text = some rest ↔ text = start ++ rest := by
  induction start generalizing text with
  | nil => simp [afterStart?]
  | cons p start ih =>
    cases text with
    | nil => simp [afterStart?]
    | cons c text =>
      rw [afterStart?]
      split
      · rename_i hc
        rw [ih, hc, List.cons_append, List.cons.injEq, and_iff_right rfl]
      · rename_i hc
        simp [Ne.symm hc]

/-! ## Paths that are read back -/

namespace Path

/-- The path is read back from its text. -/
def ReadBack (path : Path) : Prop := parse? (String.ofList (join path)) = some path

namespace ReadBack

variable {path other : Path}

theorem of_legible (hRoot : ∃ root rest, path = .key root :: rest)
    (h : ∀ segment ∈ path, segment.Legible) : path.ReadBack :=
  parse?_join_iff.mpr ⟨hRoot, fun segment hMem => (h segment hMem).neat⟩

theorem ne_nil (h : path.ReadBack) : path ≠ [] := by
  obtain ⟨⟨root, rest, rfl⟩, -⟩ := parse?_join_iff.mp h
  exact List.cons_ne_nil _ _

theorem join_ne_nil (h : path.ReadBack) : join path ≠ [] := by
  intro hNil
  rw [ReadBack, hNil] at h
  cases h

theorem trim (h : path.ReadBack) : Text.trim (join path) = join path := by
  obtain ⟨⟨root, rest, rfl⟩, hNeat⟩ := parse?_join_iff.mp h
  obtain ⟨hRoot, hRest⟩ := List.forall_mem_cons.mp hNeat
  exact trim_join hRoot hRest

/-- A path does not start with an index. -/
theorem front {i : Nat} (h : ReadBack (path ++ [Segment.index i])) : path.ReadBack := by
  obtain ⟨⟨root, rest, hRoot⟩, hNeat⟩ := parse?_join_iff.mp h
  refine parse?_join_iff.mpr ⟨?_, (List.forall_mem_append.mp hNeat).1⟩
  cases path with
  | nil => cases hRoot
  | cons first more =>
    cases hRoot
    exact ⟨root, more, rfl⟩

theorem append (h : path.ReadBack) {segment : Segment} (hSegment : segment.Neat) :
    (path ++ [segment]).ReadBack := by
  obtain ⟨⟨root, rest, rfl⟩, hNeat⟩ := parse?_join_iff.mp h
  refine parse?_join_iff.mpr ⟨⟨root, rest ++ [segment], rfl⟩, ?_⟩
  exact List.forall_mem_append.mpr ⟨hNeat, List.forall_mem_singleton.mpr hSegment⟩

/-- Different paths have different texts. -/
theorem inj (h : path.ReadBack) (hOther : other.ReadBack) (hText : join path = join other) :
    path = other := by
  unfold ReadBack at h hOther
  rw [hText, hOther] at h
  exact (Option.some.inj h).symm

end ReadBack

theorem join_append_key {path : Path} (h : path ≠ []) (name : String) :
    join (path ++ [Segment.key name]) = join path ++ '.' :: name.toList := by
  rw [join_append h, joinRest, joinRest, List.append_nil]

theorem join_append_index {path : Path} (h : path ≠ []) (i : Nat) :
    join (path ++ [Segment.index i]) = join path ++ (Segment.index i).text := by
  rw [join_append h, joinRest, joinRest, List.append_nil]

end Path

namespace Suggestion

open TextTemplate.Path (join ReadBack)

theorem isChildOf_iff {parent expression : List Char} :
    isChildOf parent expression = true ↔
      ∃ key, expression = parent ++ '.' :: key ∧ key ≠ [] ∧ '.' ∉ key ∧ '[' ∉ key := by
  unfold isChildOf
  split
  · rename_i key hAfter
    rw [Text.afterStart?_eq_some_iff] at hAfter
    have hKey : (∀ c ∈ key, (c != '.') = true ∧ (c != '[') = true) ↔ '.' ∉ key ∧ '[' ∉ key := by
      simp only [bne_iff_ne]
      exact ⟨fun h => ⟨fun hMem => (h _ hMem).1 rfl, fun hMem => (h _ hMem).2 rfl⟩,
        fun h c hc => ⟨fun he => h.1 (he ▸ hc), fun he => h.2 (he ▸ hc)⟩⟩
    simp only [Bool.and_eq_true, Bool.not_eq_true', List.isEmpty_eq_false_iff, List.all_eq_true,
      hKey, hAfter, List.append_cancel_left_eq, List.cons.injEq, true_and, exists_eq_left']
  · rename_i hNone
    refine ⟨nofun, ?_⟩
    rintro ⟨key, rfl, -⟩
    exact (hNone key (Text.afterStart?_eq_some_iff.mpr rfl)).elim

/-- There is no point in a word. -/
theorem isChildOf_word (parent : List Char) {name : String} (h : IsWord name) :
    isChildOf parent name.toList = false := by
  refine Bool.eq_false_iff.mpr fun hChild => ?_
  obtain ⟨key, hText, -⟩ := isChildOf_iff.mp hChild
  have hPoint : '.' ∈ name.toList := by
    rw [hText]
    exact List.mem_append_right _ List.mem_cons_self
  exact (h.legible.2 _ hPoint).2.1 rfl

/-- A text is one key below another one just if its path is. -/
theorem isChildOf_join {path other : Path} (hPath : path.ReadBack)
    (hRoot : ∃ root rest, other = .key root :: rest) (hOther : ∀ segment ∈ other, segment.Legible) :
    isChildOf (join path) (join other) = true ↔ ∃ name, other = path ++ [Segment.key name] := by
  rw [isChildOf_iff]
  constructor
  · rintro ⟨key, hText, hSome, hPoint, hBracket⟩
    -- There is no white space in the text, so the key is neat.
    have hBlank : ∀ c ∈ key, Text.isBlank c = false := by
      obtain ⟨root, rest, rfl⟩ := hRoot
      obtain ⟨hFirst, hRest⟩ := List.forall_mem_cons.mp hOther
      intro c hc
      refine Path.join_not_blank hFirst hRest c ?_
      rw [hText]
      exact List.mem_append_right _ (List.mem_cons_of_mem _ hc)
    have hKey : (Segment.key (String.ofList key)).Neat := by
      refine ⟨fun he => hSome (String.ofList_eq_empty_iff.mp he), ?_, ?_, ?_⟩
      · rw [String.toList_ofList, Text.trim_of_not_blank hBlank]
      · rwa [String.toList_ofList]
      · rwa [String.toList_ofList]
    refine ⟨String.ofList key, (ReadBack.of_legible hRoot hOther).inj (hPath.append hKey) ?_⟩
    rw [hText, Path.join_append_key hPath.ne_nil, String.toList_ofList]
  · rintro ⟨name, rfl⟩
    obtain ⟨hSome, hChars⟩ :=
      hOther (.key name) (List.mem_append_right _ (List.mem_singleton_self _))
    refine ⟨name.toList, Path.join_append_key hPath.ne_nil name, hSome, ?_, ?_⟩
    · exact fun hMem => (hChars _ hMem).2.1 rfl
    · exact fun hMem => (hChars _ hMem).2.2 rfl

end Suggestion

/-! ## What a path leads to -/

theorem Registry.resolve?_append (registry : Registry) {path : Path} (h : path ≠ [])
    (more : Path) : registry.resolve? (path ++ more)
      = (registry.resolve? path).bind fun v => Path.resolve? v more := by
  match path with
  | .key root :: rest =>
    change (registry.bindings.get? root).bind _ = ((registry.bindings.get? root).bind _).bind _
    rw [Option.bind_assoc]
    exact congrArg _ (funext fun v => Suggestion.resolve?_append v rest more)
  | .index i :: rest => rfl

theorem Registry.resolve?_first {registry : Registry} {path : Path} (h : path ≠ []) {v : Value} :
    registry.resolve? (path ++ [Segment.index 0]) = some v ↔
      ∃ rest, registry.resolve? path = some (.list (v :: rest)) := by
  rw [registry.resolve?_append h, Option.bind_eq_some_iff]
  constructor
  · rintro ⟨w, hResolve, hStep⟩
    rw [Path.resolve?, Option.bind_eq_some_iff] at hStep
    obtain ⟨first, hFirst, hSame⟩ := hStep
    cases hSame
    cases w with
    | list items =>
      obtain ⟨rest, rfl⟩ := List.head?_eq_some_iff.mp (List.head?_eq_getElem?.trans hFirst)
      exact ⟨rest, hResolve⟩
    | _ => cases hFirst
  · rintro ⟨rest, hResolve⟩
    exact ⟨_, hResolve, rfl⟩

/-- The fields of what a path leads to, if it is an object. -/
def Registry.fieldsAt (registry : Registry) (path : Path) : Fields :=
  ((registry.resolve? path).bind Value.asObject?).getD []

theorem Registry.fieldsAt_of_object {registry : Registry} {path : Path} {fields : Fields}
    (h : registry.resolve? path = some (.object fields)) : registry.fieldsAt path = fields := by
  rw [fieldsAt, h]
  rfl

theorem Registry.fieldsAt_eq_nil {registry : Registry} {path : Path}
    (h : ∀ fields, registry.resolve? path ≠ some (.object fields)) :
    registry.fieldsAt path = [] := by
  rw [fieldsAt]
  cases hResolve : registry.resolve? path with
  | none => rfl
  | some v =>
    cases v with
    | object fields => exact absurd hResolve (h fields)
    | _ => rfl

theorem Registry.get?_fieldsAt (registry : Registry) {path : Path} (h : path ≠ [])
    (name : String) :
    (registry.fieldsAt path).get? name = registry.resolve? (path ++ [Segment.key name]) := by
  rw [registry.resolve?_append h, fieldsAt]
  cases registry.resolve? path with
  | none => rfl
  | some v =>
    have hStep : Path.resolve? v [.key name] = Path.step? v (.key name) := Option.bind_fun_some _
    rw [Option.bind_some, Option.bind_some, hStep]
    cases v <;> rfl

theorem Path.FirstItems.append_key {path : Path} (h : path.FirstItems) (name : String) :
    Path.FirstItems (path ++ [Segment.key name]) := by
  intro i hi
  exact h i (by simpa using hi)

theorem Path.FirstItems.append_first {path : Path} (h : path.FirstItems) :
    Path.FirstItems (path ++ [Segment.index 0]) := by
  intro i hi
  rcases List.mem_append.mp hi with hi | hi
  · exact h i hi
  · cases List.mem_singleton.mp hi
    rfl

theorem Value.Each.resolve? {P : Fields → Prop} {v w : Value} {path : Path} (h : v.Each P)
    (hResolve : Path.resolve? v path = some w) : w.Each P := by
  induction path generalizing v with
  | nil =>
    cases hResolve
    exact h
  | cons segment rest ih =>
    obtain ⟨u, hStep, hRest⟩ := Option.bind_eq_some_iff.mp hResolve
    exact ih (h.step hStep) hRest

namespace Registry.Spelled

variable {registry : Registry} (h : registry.Spelled)

include h

/-- A path through first items consists of words and zeros. -/
theorem legible {path : Path} {v : Value} (hFirst : path.FirstItems)
    (hResolve : registry.resolve? path = some v) :
    (∃ root rest, path = .key root :: rest) ∧ ∀ segment ∈ path, segment.Legible := by
  obtain ⟨root, rest, rfl, ⟨u, hMem⟩, hRest⟩ := h.readable hFirst hResolve
  refine ⟨⟨root, rest, rfl⟩, List.forall_mem_cons.mpr ⟨(h.roots _ hMem).legible, ?_⟩⟩
  exact fun segment hSegment => (hRest segment hSegment).legible

theorem readBack {path : Path} {v : Value} (hFirst : path.FirstItems)
    (hResolve : registry.resolve? path = some v) : path.ReadBack :=
  .of_legible (h.legible hFirst hResolve).1 (h.legible hFirst hResolve).2

theorem ordered_fieldsAt (path : Path) : (registry.fieldsAt path).Ordered := by
  by_cases hObject : ∃ fields, registry.resolve? path = some (.object fields)
  · obtain ⟨fields, hResolve⟩ := hObject
    obtain ⟨root, rest, u, rfl, hGet, hRest⟩ := Registry.resolve?_eq_some_iff.mp hResolve
    have hEach := (h.each_ordered (Table.mem_of_get? hGet)).resolve? hRest
    rw [Registry.fieldsAt_of_object hResolve]
    cases hEach with
    | object hFields _ => exact hFields
  · rw [Registry.fieldsAt_eq_nil fun fields hResolve => hObject ⟨fields, hResolve⟩]
    exact List.Pairwise.nil

theorem mem_fieldsAt {path : Path} (hSome : path ≠ []) {name : String} {v : Value} :
    (name, v) ∈ registry.fieldsAt path ↔
      registry.resolve? (path ++ [Segment.key name]) = some v := by
  rw [Table.mem_iff_get? (h.ordered_fieldsAt path), registry.get?_fieldsAt hSome]

end Registry.Spelled

/-! ## Searches among the suggestions -/

theorem Path.Before.asymm {a b : Path} (h : Path.Before a b) : ¬ Path.Before b a := by
  refine List.lex_asymm (fun hab hba => ?_) h
  cases hab with
  | key hab =>
    cases hba with
    | key hba => exact String.lt_irrefl _ (String.lt_trans hab hba)
  | index hab =>
    cases hba with
    | index hba => exact Nat.lt_asymm hab hba

/-- Entries whose paths ascend are known by their members. -/
theorem Value.entries_eq {entries others : List (Path × Value)}
    (hEntries : (entries.map Prod.fst).Pairwise Path.Before)
    (hOthers : (others.map Prod.fst).Pairwise Path.Before)
    (h : ∀ entry, entry ∈ entries ↔ entry ∈ others) : entries = others := by
  have : Std.Irrefl fun a b : Path × Value => Path.Before a.1 b.1 := ⟨fun a ha => ha.ne rfl⟩
  have : Std.Antisymm fun a b : Path × Value => Path.Before a.1 b.1 :=
    ⟨fun a b hab hba => absurd hba hab.asymm⟩
  exact (List.pairwise_map.mp hEntries).eq_of_mem_iff (List.pairwise_map.mp hOthers) h

namespace Registry.Spelled

open TextTemplate.Path (join ReadBack)

variable {registry : Registry} (h : registry.Spelled) {settings : SuggestionSettings}

include h

/-- A search that passes over functions gives the suggestions of a list of paths, if these ascend
and are the right ones. -/
theorem filter_all {search : Suggestion → Bool} {entries : List (Path × Value)}
    (hFunctions : ∀ entry ∈ registry.functions,
      search (Suggestion.ofFunction entry.1 entry.2) = false)
    (hOrder : (entries.map Prod.fst).Pairwise Path.Before)
    (hMem : ∀ path v, (path, v) ∈ entries ↔ (path.FirstItems ∧ registry.resolve? path = some v) ∧
      search (Suggestion.ofPath settings (path, v)) = true) :
    (Suggestion.all settings registry).filter search
      = entries.map (Suggestion.ofPath settings) := by
  have hFound : (Value.reachFields registry.bindings).filter
      (search ∘ Suggestion.ofPath settings) = entries := by
    refine Value.entries_eq ?_ hOrder fun entry => ?_
    · exact h.pairwise_reachFields.sublist (List.filter_sublist.map Prod.fst)
    · rw [List.mem_filter, hMem, ← h.mem_reachFields_iff]
      rfl
  rw [Suggestion.all, List.filter_append, Suggestion.ofVariables_eq, List.filter_map, hFound]
  refine List.append_right_eq_self.mpr (List.filter_eq_nil_iff.mpr fun s hs => ?_)
  obtain ⟨entry, hEntry, rfl⟩ := List.mem_map.mp hs
  rw [hFunctions entry hEntry]
  exact Bool.false_ne_true

/-- The suggestion with the text of a path is the one of the path, if there is one. -/
theorem filter_text {search : Suggestion → Bool} {path : Path} (hPath : path.ReadBack)
    (hFirst : path.FirstItems)
    (hFunctions : ∀ entry ∈ registry.functions,
      search (Suggestion.ofFunction entry.1 entry.2) = false)
    (hSearch : ∀ entry : Path × Value,
      search (Suggestion.ofPath settings entry) = true ↔ join entry.1 = join path) :
    (Suggestion.all settings registry).filter search
      = (registry.resolve? path).toList.map fun v => Suggestion.ofPath settings (path, v) := by
  have hEntries :
      (registry.resolve? path).toList.map (fun v => Suggestion.ofPath settings (path, v))
      = ((registry.resolve? path).toList.map (path, ·)).map (Suggestion.ofPath settings) := by
    rw [List.map_map]
    rfl
  rw [hEntries]
  refine h.filter_all hFunctions ?_ fun other v => ?_
  · cases registry.resolve? path with
    | none => exact List.Pairwise.nil
    | some v => exact List.pairwise_singleton _ _
  · rw [hSearch, List.mem_map]
    constructor
    · rintro ⟨w, hw, hEq⟩
      cases hEq
      exact ⟨⟨hFirst, Option.mem_toList.mp hw⟩, rfl⟩
    · rintro ⟨⟨hOther, hResolve⟩, hText⟩
      obtain rfl := (h.readBack hOther hResolve).inj hPath hText
      exact ⟨v, Option.mem_toList.mpr hResolve, rfl⟩

/-- The suggestions one key below a path are those of the fields of what it leads to, in the order
of their names. -/
theorem childrenOf_all (hFunctions : ∀ entry ∈ registry.functions, IsWord entry.1) {path : Path}
    (hPath : path.ReadBack) (hFirst : path.FirstItems) :
    Suggestion.childrenOf (Suggestion.all settings registry) (join path)
      = (registry.fieldsAt path).map fun field =>
        Suggestion.ofPath settings (path ++ [Segment.key field.1], field.2) := by
  have hEntries : (registry.fieldsAt path).map (fun field =>
        Suggestion.ofPath settings (path ++ [Segment.key field.1], field.2))
      = ((registry.fieldsAt path).map fun field => (path ++ [Segment.key field.1], field.2)).map
        (Suggestion.ofPath settings) := by
    rw [List.map_map]
    rfl
  rw [hEntries]
  refine h.filter_all (fun entry hEntry => ?_) ?_ fun other v => ?_
  · exact Suggestion.isChildOf_word (join path) (hFunctions entry hEntry)
  · rw [List.map_map, List.pairwise_map]
    exact (h.ordered_fieldsAt path).imp fun hName => List.Lex.append_left _ (.rel (.key hName)) path
  · have hChild (hOther : other.FirstItems) (hResolve : registry.resolve? other = some v) :
        Suggestion.isChildOf (join path)
            (Suggestion.ofPath settings (other, v)).expression.toList = true ↔
          ∃ name, other = path ++ [Segment.key name] := by
      change Suggestion.isChildOf _ (String.ofList (join other)).toList = true ↔ _
      rw [String.toList_ofList]
      exact Suggestion.isChildOf_join hPath (h.legible hOther hResolve).1
        (h.legible hOther hResolve).2
    rw [List.mem_map]
    constructor
    · rintro ⟨⟨name, u⟩, hMem, hEq⟩
      cases hEq
      have hResolve := (h.mem_fieldsAt hPath.ne_nil).mp hMem
      have hOther := hFirst.append_key name
      exact ⟨⟨hOther, hResolve⟩, (hChild hOther hResolve).mpr ⟨name, rfl⟩⟩
    · rintro ⟨⟨hOther, hResolve⟩, hSearch⟩
      obtain ⟨name, rfl⟩ := (hChild hOther hResolve).mp hSearch
      exact ⟨(name, v), (h.mem_fieldsAt hPath.ne_nil).mpr hResolve, rfl⟩

end Registry.Spelled

end TextTemplate
