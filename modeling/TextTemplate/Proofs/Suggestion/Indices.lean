import TextTemplate.Proofs.Suggestion.OpenCalls

/-!
# Completions under any index

Suggestions go through first items only. After a point, the index at the end of what is typed is
taken for the one of the first item, and the completions are put under the index that was typed; the
indices in front of it are taken as they are. So completions do not depend on the index at the end,
and there are none where an index in front is not zero.

* `childrenAfterPoint_of_not_first`: behind another item than the first, nothing is listed.
* `completesAlike_of_first`: under any index at the end, what is listed for the first item is.
* `Typed.allFirst`: a path through first items can be typed if a path with other indices can.
* `not_completesUnderEveryIndex`: the indices in front do count.
* `completes_under_last_index`: the statement for all paths that can be typed.
-/

namespace TextTemplate

open Lexer

/-! ## First items -/

namespace Path

open TextTemplate.Suggestion (CallScan openArgument?)
open TextTemplate.Suggestion.CallScan (Filler)

/-- The path through first items, whatever the indices. -/
def allFirst (path : Path) : Path := path.map Segment.toFirst

theorem allFirst_of_firstItems {path : Path} (h : path.FirstItems) : path.allFirst = path := by
  refine (List.map_congr_left fun segment hMem => ?_).trans (List.map_id path)
  cases segment with
  | key name => rfl
  | index i =>
    rw [h i hMem]
    rfl

theorem allFirst_of_toFirst {path : Path} (h : path.toFirst.FirstItems) :
    path.allFirst = path.toFirst := by
  rcases eq_or_ne path [] with rfl | hSome
  · rfl
  · obtain ⟨front, segment, rfl⟩ := exists_concat hSome
    rw [toFirst_concat] at h ⊢
    have hFront : FirstItems front := fun i hi => h i (List.mem_append_left _ hi)
    have hSame := allFirst_of_firstItems hFront
    rw [allFirst] at hSame ⊢
    rw [List.map_append, hSame, List.map_singleton]

end Path

namespace Suggestion

open TextTemplate.Path (join joinRest ReadBack)

/-! ## Scans of paths -/

namespace CallScan

/-- The scans stand in the same quotes and calls, both or neither of them in an argument. -/
structure Alike (s t : CallScan) : Prop where
  quotes (quote : Char) : s.quote = some quote → quote = '\'' ∨ quote = '"'
  quote : s.quote = t.quote
  depth : s.depth = t.depth
  argument : s.argument.isSome = t.argument.isSome

theorem Alike.step {s t : CallScan} (h : s.Alike t) (c : Char) : (s.step c).Alike (t.step c) := by
  obtain ⟨hQuotes, hQuote, hDepth, hArgument⟩ := h
  unfold CallScan.step
  rw [← hQuote, ← hDepth]
  cases hOpen : s.quote with
  | some quote =>
    dsimp only
    refine ⟨fun other hOther => ?_, rfl, hDepth, by simpa [keep] using hArgument⟩
    dsimp only at hOther
    split at hOther
    · cases hOther
    · cases hOther
      exact hQuotes _ hOpen
  | none =>
    dsimp only
    split
    · rename_i hc
      refine ⟨?_, rfl, hDepth, by simpa [keep] using hArgument⟩
      rintro _ ⟨⟩
      exact hc
    · have hNone (quote : Char) : none = some quote → quote = '\'' ∨ quote = '"' := by
        rintro ⟨⟩
      split
      · exact ⟨hNone, rfl, rfl, rfl⟩
      · split
        · exact ⟨hNone, rfl, rfl, rfl⟩
        · split
          · exact ⟨hNone, rfl, rfl, rfl⟩
          · refine ⟨fun quote hSome => ?_, hQuote, hDepth, by simpa [keep] using hArgument⟩
            exact hQuotes quote hSome

theorem Alike.foldl {s t : CallScan} (h : s.Alike t) (text : List Char) :
    (text.foldl CallScan.step s).Alike (text.foldl CallScan.step t) := by
  induction text generalizing s t with
  | nil => exact h
  | cons c rest ih => exact ih (h.step c)

/-- Inside of quotes or not, texts of fillers differ in what the argument holds only. -/
theorem Alike.fillers {s t : CallScan} (h : s.Alike t) {text : List Char}
    (hText : ∀ c ∈ text, Filler c) : (text.foldl CallScan.step s).Alike t := by
  induction text generalizing s with
  | nil => exact h
  | cons c rest ih =>
    obtain ⟨hc, hRest⟩ := List.forall_mem_cons.mp hText
    have hKept : s.step c = s.keep c := by
      cases hOpen : s.quote with
      | none => exact step_filler hc hOpen
      | some quote =>
        have hNe : c ≠ quote := fun he => hc.quote (he ▸ h.quotes quote hOpen)
        unfold CallScan.step
        rw [hOpen]
        dsimp only
        rw [if_neg hNe, ← hOpen]
        rfl
    rw [List.foldl_cons, hKept]
    refine ih ⟨h.quotes, h.quote, h.depth, ?_⟩ hRest
    simpa [keep] using h.argument

theorem Alike.symm {s t : CallScan} (h : s.Alike t) : t.Alike s :=
  ⟨fun quote hQuote => h.quotes quote (h.quote.trans hQuote), h.quote.symm, h.depth.symm,
    h.argument.symm⟩

theorem filler_of_mem_index {i : Nat} {c : Char} (hc : c ∈ (Segment.index i).text) : Filler c := by
  simp only [Segment.text, List.cons_append, List.mem_cons, List.mem_append, List.not_mem_nil,
    or_false] at hc
  rcases hc with rfl | hDigit | rfl
  · decide
  · exact filler_of_isDigit (isDigit_of_mem_digits hDigit)
  · decide

/-- The scan does not look at indices. -/
theorem Alike.joinRest {s t : CallScan} (h : s.Alike t) (path : Path) :
    ((Path.joinRest path).foldl CallScan.step s).Alike
      ((Path.joinRest path.allFirst).foldl CallScan.step t) := by
  induction path generalizing s t with
  | nil => exact h
  | cons segment rest ih =>
    cases segment with
    | key name =>
      change ((('.' :: name.toList) ++ Path.joinRest rest).foldl CallScan.step s).Alike
        ((('.' :: name.toList) ++ Path.joinRest (Path.allFirst rest)).foldl CallScan.step t)
      rw [List.foldl_append, List.foldl_append]
      exact ih (h.foldl _)
    | index i =>
      change (((Segment.index i).text ++ Path.joinRest rest).foldl CallScan.step s).Alike
        (((Segment.index 0).text ++ Path.joinRest (Path.allFirst rest)).foldl CallScan.step t)
      rw [List.foldl_append, List.foldl_append]
      have hTyped : ((Segment.index i).text.foldl CallScan.step s).Alike t :=
        h.fillers fun c hc => filler_of_mem_index hc
      exact ih (hTyped.symm.fillers fun c hc => filler_of_mem_index hc).symm

theorem alike_join (root : String) (rest : Path) :
    ((join (.key root :: rest)).foldl CallScan.step ⟨0, none, none⟩).Alike
      ((join (Path.allFirst (.key root :: rest))).foldl CallScan.step ⟨0, none, none⟩) := by
  have hStart : Alike ⟨0, none, none⟩ ⟨0, none, none⟩ := ⟨nofun, rfl, rfl, rfl⟩
  change ((root.toList ++ Path.joinRest rest).foldl CallScan.step _).Alike
    ((root.toList ++ Path.joinRest (Path.allFirst rest)).foldl CallScan.step _)
  rw [List.foldl_append, List.foldl_append]
  exact (hStart.foldl root.toList).joinRest rest

end CallScan

theorem openArgument?_eq_none_iff {text : List Char} :
    openArgument? text = none ↔ (text.foldl CallScan.step ⟨0, none, none⟩).depth = 0 ∨
      (text.foldl CallScan.step ⟨0, none, none⟩).argument.isSome = false := by
  unfold openArgument?
  dsimp only
  split
  · rename_i hDepth
    simp [hDepth]
  · rename_i hDepth
    simp [hDepth]

end Suggestion

theorem Path.head?_joinRest (path : Path) : ∀ c ∈ (joinRest path).head?, c = '.' ∨ c = '[' := by
  cases path with
  | nil => nofun
  | cons segment rest =>
    cases segment with
    | key name =>
      rintro c ⟨⟩
      exact .inl rfl
    | index i =>
      rintro c ⟨⟩
      exact .inr rfl

/-- The opening of a placeholder in front of a path stands in its root. -/
theorem Path.opening_prefix_iff {root : String} (h : NeatKey root) (rest : Path) :
    ['$', '\x7b'] <+: join (.key root :: rest) ↔ ['$', '\x7b'] <+: root.toList := by
  change ['$', '\x7b'] <+: root.toList ++ joinRest rest ↔ _
  refine ⟨fun hOpen => ?_, fun hOpen => hOpen.trans (List.prefix_append _ _)⟩
  rcases hRoot : root.toList with _ | ⟨c, _ | ⟨d, more⟩⟩
  · exact absurd hRoot h.toList_ne_nil
  · rw [hRoot] at hOpen
    obtain ⟨more, hMore⟩ := (List.cons_prefix_cons.mp hOpen).2
    have hRest : '\x7b' :: more = joinRest rest := hMore
    have hHead := head?_joinRest rest '\x7b' (by rw [← hRest]; rfl)
    simp at hHead
  · rw [hRoot] at hOpen
    obtain ⟨rfl, hBrace⟩ := List.cons_prefix_cons.mp hOpen
    obtain ⟨rfl, -⟩ := List.cons_prefix_cons.mp hBrace
    exact ⟨more, rfl⟩

/-- A path through first items can be typed if a path with other indices can. -/
theorem Path.Typed.allFirst {path : Path} (h : path.Typed) : path.allFirst.Typed := by
  obtain ⟨root, rest, rfl⟩ := h.root
  have hRoot := h.keys root List.mem_cons_self
  refine ⟨⟨root, Path.allFirst rest, rfl⟩, fun name hMem => ?_, ?_, fun hOpen => h.bare ?_⟩
  · obtain ⟨segment, hSegment, hKey⟩ := List.mem_map.mp hMem
    cases segment <;> cases hKey
    exact h.keys name hSegment
  · have hScan := Suggestion.CallScan.alike_join root rest
    have hClosed := h.closed
    rw [Suggestion.openArgument?_eq_none_iff] at hClosed ⊢
    rwa [← hScan.depth, ← hScan.argument]
  · exact (opening_prefix_iff hRoot rest).mpr
      ((opening_prefix_iff hRoot (Path.allFirst rest)).mp hOpen)

theorem Path.Typed.readBack_of_bounded {path : Path} (h : path.Typed)
    (hBound : ∀ i, .index i ∈ path → i < Path.indexLimit) : path.ReadBack := by
  refine parse?_join_iff.mpr ⟨h.root, fun segment hMem => ?_⟩
  cases segment with
  | key name => exact h.keys name hMem
  | index i => exact hBound i hMem

/-! ## What is listed -/

namespace Registry.Spelled

open Suggestion
open TextTemplate.Path (join ReadBack)

variable {registry : Registry} (h : registry.Spelled) {settings : SuggestionSettings}

include h

/-- There is no suggestion below another item than the first. -/
theorem childrenOf_all_of_not_first (hFunctions : ∀ entry ∈ registry.functions, IsWord entry.1)
    {path : Path} (hPath : path.ReadBack) (hNot : ¬ path.FirstItems) :
    childrenOf (all settings registry) (join path) = [] := by
  change (all settings registry).filter _ = [].map (ofPath settings)
  refine h.filter_all (fun entry hEntry => isChildOf_word _ (hFunctions entry hEntry))
    List.Pairwise.nil fun other v => ⟨nofun, ?_⟩
  rintro ⟨⟨hFirst, hResolve⟩, hChild⟩
  obtain ⟨hRoot, hLegible⟩ := h.legible hFirst hResolve
  rw [toList_ofPath] at hChild
  obtain ⟨name, rfl⟩ := (isChildOf_join hPath hRoot hLegible).mp hChild
  exact absurd (fun i hi => hFirst i (List.mem_append_left _ hi)) hNot

/-- There is no suggestion for another item than the first. -/
theorem find?_of_not_first {path : Path} (hPath : path.ReadBack) (hNot : ¬ path.FirstItems) :
    (all settings registry).find? (fun s => !s.isFunction && s.expression.toList == join path)
      = none := by
  refine List.find?_eq_none.mpr fun s hs hFound => ?_
  obtain ⟨hValue, hText⟩ := Bool.and_eq_true_iff.mp hFound
  have hMem : s ∈ Suggestion.values settings registry := List.mem_filter.mpr ⟨hs, hValue⟩
  rw [values_eq] at hMem
  obtain ⟨⟨other, v⟩, hReach, rfl⟩ := List.mem_map.mp hMem
  obtain ⟨hFirst, hResolve⟩ := h.mem_reachFields_iff.mp hReach
  have hJoin : join other = join path := by simpa [ofPath, ofValue] using hText
  exact hNot ((h.readBack hFirst hResolve).inj hPath hJoin ▸ hFirst)

/-- Nothing is listed where an index in front is not zero. -/
theorem childrenAfterPoint_of_not_first
    (hFunctions : ∀ entry ∈ registry.functions, IsWord entry.1) {path : Path}
    (hPath : path.ReadBack) (hNot : ¬ path.toFirst.FirstItems) :
    childrenAfterPoint (all settings registry) (join path) = [] := by
  obtain ⟨front, segment, rfl⟩ := Path.exists_concat hPath.ne_nil
  rw [Path.toFirst_concat] at hNot
  have hItself : ¬ Path.FirstItems (front ++ [segment]) := by
    refine fun hFirst => hNot fun i hi => ?_
    rcases List.mem_append.mp hi with hi | hi
    · exact hFirst i (List.mem_append_left _ hi)
    · cases segment <;> cases List.mem_singleton.mp hi
      rfl
  unfold childrenAfterPoint
  cases segment with
  | key name =>
    rw [indexedList?_key hPath]
    dsimp only
    rw [h.find?_of_not_first hPath hItself]
  | index i =>
    have hFront := hPath.front
    have hIndexed := indexedList?_index hFront.join_ne_nil i
    rw [← Path.join_append_index hFront.ne_nil] at hIndexed
    rw [hIndexed]
    by_cases hLine : '\n' ∈ join front
    · rw [if_pos hLine]
      dsimp only
      rw [h.find?_of_not_first hPath hItself]
    · rw [if_neg hLine]
      have hItem : ReadBack (front ++ [Segment.index 0]) := hFront.append readSegment_first.legible
      have hZero : join front ++ "[0]".toList = join (front ++ [Segment.index 0]) := by
        rw [Path.join_append_index hFront.ne_nil, text_first]
      dsimp only
      rw [hZero, h.childrenOf_all_of_not_first hFunctions hItem hNot, List.map_nil]

end Registry.Spelled

namespace Suggestion

open TextTemplate.Path (join ReadBack)

/-- The completions of a path and a point. -/
def afterPoint (settings : SuggestionSettings) (registry : Registry) (path : Path) :
    List Suggestion :=
  complete settings (all settings registry) (path.expression ++ ".")

theorem afterPoint_eq (settings : SuggestionSettings) (registry : Registry) {path : Path}
    (h : path.Typed) (hTrimmed : Text.trim (join path) = join path) :
    afterPoint settings registry path
      = settings.cut (childrenAfterPoint (all settings registry) (join path)) := by
  rw [afterPoint, complete_eq_cut]
  exact congrArg settings.cut
    (@complete_point { settings with limit := none } rfl _ _ hTrimmed h.join_ne_nil h.closed h.bare)

/-- A suggestion under one path, put under another one. -/
def MovedTo (path other : Path) (s t : Suggestion) : Prop :=
  ∃ rest, s.expression = path.expression ++ rest ∧
    t = { s with expression := other.expression ++ rest }

theorem fieldsUnder_moved (settings : SuggestionSettings) (registry : Registry)
    (parent path other : Path) : List.Forall₂ (MovedTo path other)
      (fieldsUnder settings registry parent path.expression)
      (fieldsUnder settings registry parent other.expression) := by
  rw [fieldsUnder, fieldsUnder, List.forall₂_map_left_iff, List.forall₂_map_right_iff,
    List.forall₂_same]
  exact fun field _ => ⟨"." ++ field.1, String.append_assoc, by rw [fieldOf, String.append_assoc]⟩

/-- Under its own indices, a path is completed as it is through first items. -/
def CompletesAlike (settings : SuggestionSettings) (registry : Registry) (path : Path) : Prop :=
  List.Forall₂ (MovedTo path.allFirst path) (afterPoint settings registry path.allFirst)
    (afterPoint settings registry path)

/-- Completions do not depend on the indices. -/
def CompletesUnderEveryIndex : Prop :=
  ∀ (settings : SuggestionSettings) (registry : Registry) (path : Path),
    registry.Spelled → (∀ entry ∈ registry.functions, IsWord entry.1) → path.Typed →
      (∀ i, .index i ∈ path → i < Path.indexLimit) → CompletesAlike settings registry path

/-! ### An index in front -/

/-- A list of objects with an object and a list of objects in them. -/
def orderRegistry : Registry :=
  let address : Value := .object [("street", .text "Elm")]
  let line : Value := .object [("sku", .text "A7")]
  let order : Value := .object [("address", address), ("lines", .list [line])]
  Registry.empty.setVariable "orders" (.list [order])

theorem spelled_orderRegistry : orderRegistry.Spelled := by
  have hAddress := @Value.named_field "street" _ (by decide +kernel) (.text "Elm")
  have hLine := @Value.named_field "sku" _ (by decide +kernel) (.text "A7")
  refine (Registry.named_empty.setVariable (by decide +kernel)
    (.list (List.forall_mem_singleton.mpr (.object ⟨?_, by decide +kernel⟩ ?_)))).spelled
  · unfold Table.Ordered
    decide +kernel
  · exact List.forall_mem_cons.mpr ⟨hAddress,
      List.forall_mem_singleton.mpr (.list (List.forall_mem_singleton.mpr hLine))⟩

theorem not_completesUnderEveryIndex :
    let found (partialText : String) :=
      (complete {} (all {} orderRegistry) partialText).map Suggestion.expression
    found "orders[0].address." = ["orders[0].address.street"] ∧ found "orders[3].address." = [] ∧
      found "orders[0].lines[0]." = ["orders[0].lines[0].sku"] ∧ found "orders[3].lines[1]." = [] ∧
      ¬ CompletesUnderEveryIndex := by
  intro found
  let path : Path := [.key "orders", .index 3, .key "address"]
  have hTyped : path.Typed := by
    refine Path.typed_of_words fun name hName => ?_
    simp only [List.mem_cons, Segment.key.injEq, reduceCtorEq, List.not_mem_nil, or_false,
      false_or] at hName
    rcases hName with rfl | rfl <;> decide +kernel
  have hBound : ∀ i, .index i ∈ path → i < Path.indexLimit := by
    intro i hi
    obtain rfl : i = 3 := by simpa [path] using hi
    decide
  refine ⟨by decide +kernel, by decide +kernel, by decide +kernel, by decide +kernel, fun h => ?_⟩
  have hLength := (h {} orderRegistry path spelled_orderRegistry (List.forall_mem_nil _) hTyped
    hBound).length_eq
  revert hLength
  decide +kernel

/-! ### The index at the end -/

theorem completesAlike_of_first (settings : SuggestionSettings) {registry : Registry} {path : Path}
    (h : registry.Spelled) (hFunctions : ∀ entry ∈ registry.functions, IsWord entry.1)
    (hTyped : path.Typed) (hFirst : path.toFirst.FirstItems) :
    CompletesAlike settings registry path := by
  have hRead := hTyped.readBack hFirst
  have hAll := Path.allFirst_of_toFirst hFirst
  have hTypedFirst := hTyped.allFirst
  rw [CompletesAlike, afterPoint_eq settings registry hTyped (hTyped.trim hFirst)]
  rw [hAll] at hTypedFirst ⊢
  rw [afterPoint_eq settings registry hTypedFirst hRead.trim]
  refine settings.forall₂_cut ?_
  obtain ⟨front, segment, rfl⟩ := Path.exists_concat hTyped.ne_nil
  rw [Path.toFirst_concat] at hRead hFirst ⊢
  cases segment with
  | index i =>
    rw [Segment.toFirst] at hRead hFirst ⊢
    rw [h.childrenAfterPoint_index hFunctions hRead hFirst 0,
      h.childrenAfterPoint_index hFunctions hRead hFirst i]
    exact fieldsUnder_moved settings registry _ _ _
  | key name =>
    rw [Segment.toFirst] at hRead hFirst ⊢
    rw [h.childrenAfterPoint_of_not_indexed hFunctions hRead hFirst (indexedList?_key hRead)]
    refine List.forall₂_same.mpr fun s hs => ?_
    rcases (listsChildren_key h hRead hFirst).below s hs with hItem | ⟨child, -, hField⟩
    · exact ⟨"[0]", hItem, by rw [← firstItemOf, ← hItem]⟩
    · rw [fieldOf, String.append_assoc] at hField
      exact ⟨"." ++ child, hField, by rw [← hField]⟩

/-- Every path that can be typed is completed as it is through first items, whatever the index at
its end. Where an index in front is not zero, nothing is listed. -/
theorem completes_under_last_index (settings : SuggestionSettings) {registry : Registry}
    {path : Path} (h : registry.Spelled)
    (hFunctions : ∀ entry ∈ registry.functions, IsWord entry.1) (hTyped : path.Typed)
    (hBound : ∀ i, .index i ∈ path → i < Path.indexLimit) :
    (CompletesAlike settings registry path ↔
      path.toFirst.FirstItems ∨ afterPoint settings registry path.allFirst = []) ∧
      (¬ path.toFirst.FirstItems → afterPoint settings registry path = []) := by
  have hRead := hTyped.readBack_of_bounded hBound
  have hNothing (hNot : ¬ path.toFirst.FirstItems) : afterPoint settings registry path = [] := by
    rw [afterPoint_eq settings registry hTyped hRead.trim,
      h.childrenAfterPoint_of_not_first hFunctions hRead hNot,
      settings.cut_nil]
  refine ⟨⟨fun hAlike => or_iff_not_imp_left.mpr fun hNot => ?_, ?_⟩, hNothing⟩
  · rw [CompletesAlike, hNothing hNot] at hAlike
    exact List.forall₂_nil_right_iff.mp hAlike
  · rintro (hFirst | hNone)
    · exact completesAlike_of_first settings h hFunctions hTyped hFirst
    · by_cases hFirst : path.toFirst.FirstItems
      · exact completesAlike_of_first settings h hFunctions hTyped hFirst
      · rw [CompletesAlike, hNone, hNothing hFirst]
        exact .nil

/-- Behind the index of an order, the fields of the first one are listed. -/
theorem completes_under_last_index_orders :
    let path : Path := [.key "orders", .index 3]
    let found := afterPoint {} orderRegistry path
    orderRegistry.Spelled ∧ path.Typed ∧ (∀ i, .index i ∈ path → i < Path.indexLimit) ∧
      CompletesAlike {} orderRegistry path ∧
      found.map Suggestion.expression = ["orders[3].address", "orders[3].lines"] := by
  intro path found
  have hTyped : path.Typed := by
    refine Path.typed_of_words fun name hName => ?_
    obtain rfl : name = "orders" := by simpa using hName
    decide +kernel
  have hBound : ∀ i, .index i ∈ path → i < Path.indexLimit := by
    intro i hi
    obtain rfl : i = 3 := by simpa [path] using hi
    decide
  have hFirst : path.toFirst.FirstItems := by
    have hItem : path.toFirst = [.key "orders", .index 0] := rfl
    intro i hi
    rw [hItem] at hi
    simpa using hi
  exact ⟨spelled_orderRegistry, hTyped, hBound,
    (completes_under_last_index {} spelled_orderRegistry (List.forall_mem_nil _) hTyped
      hBound).1.mpr (.inl hFirst), by decide +kernel⟩

end Suggestion

end TextTemplate
