import Mathlib.Data.List.ModifyLast
import TextTemplate.Proofs.Suggestion.Children

/-!
# Completions after a point

After the text of a path and a point, the children of what the path leads to are listed: the fields
of an object under the index that was typed, and the first item of a list behind a key.

* `complete_point`: what is typed is taken for the text of a path and a point.
* `indexedList?_index`, `indexedList?_key`: when an index is found at the end of the text.
* `childrenAfterPoint_index`, `childrenAfterPoint_of_not_indexed`: what is listed then.
* `ListsChildren`: the children of what a path leads to are listed.
* `not_completesEveryPath`: some texts are taken for something else than their paths.
* `lists_children`: the statement for all paths that can be typed.
-/

namespace TextTemplate

open Lexer

/-- The expression of a path. -/
def Path.expression (path : Path) : String := String.ofList (Path.join path)

namespace Suggestion

open TextTemplate.Path (join ReadBack)

/-! ## What is typed -/

theorem CallScan.step_point (s : CallScan) : (s.step '.').depth = s.depth ∧
    (s.step '.').argument = s.argument.map ('.' :: ·) := by
  unfold CallScan.step
  split
  · exact ⟨rfl, rfl⟩
  · exact ⟨rfl, rfl⟩

theorem openArgument?_point {text : List Char} (h : openArgument? text = none) :
    openArgument? (text ++ ['.']) = none := by
  unfold openArgument? at h ⊢
  dsimp only at h ⊢
  obtain ⟨hDepth, hArgument⟩ := (text.foldl CallScan.step ⟨0, none, none⟩).step_point
  rw [List.foldl_append, List.foldl_cons, List.foldl_nil, hDepth, hArgument]
  split at h
  · rename_i hZero
    rw [if_pos hZero]
  · rename_i hOpen
    rw [if_neg hOpen, Option.map_eq_none_iff.mp h]
    rfl

theorem openArgument?_of_not_mem {text : List Char} (h : '(' ∉ text) :
    openArgument? text = none := by
  have hDepth (s : CallScan) (hs : s.depth = 0) : (text.foldl CallScan.step s).depth = 0 := by
    induction text generalizing s with
    | nil => exact hs
    | cons c rest ih =>
      obtain ⟨hc, hRest⟩ := not_or.mp (mt List.mem_cons.mpr h)
      refine ih hRest (s.step c) ?_
      unfold CallScan.step
      split
      · exact hs
      · split
        · exact hs
        · rw [if_neg (Ne.symm hc)]
          split
          · simp [hs]
          · split <;> exact hs
  unfold openArgument?
  rw [if_pos (hDepth _ rfl)]

/-- A text that starts no placeholder and leaves no call open is taken for the parent of what is
completed after a point. -/
theorem complete_point {settings : SuggestionSettings} (hLimit : settings.limit = none)
    (all : List Suggestion) {text : List Char} (hTrimmed : Text.trim text = text)
    (hSome : text ≠ []) (hClosed : openArgument? text = none) (hBare : ¬ ['$', '\x7b'] <+: text) :
    complete settings all (String.ofList text ++ ".") = childrenAfterPoint all text := by
  have hFirst : ∀ c ∈ (text ++ ['.']).head?, Text.isBlank c = false := by
    have hHead := Text.head?_trim text
    obtain ⟨c, rest, rfl⟩ := List.exists_cons_of_ne_nil hSome
    rw [hTrimmed] at hHead
    exact hHead
  have hLast : ∀ c ∈ (text ++ ['.']).getLast?, Text.isBlank c = false := by
    rw [List.getLast?_concat]
    rintro c ⟨⟩
    rfl
  have hStart : Text.trimStart (text ++ ['.']) = text ++ ['.'] := by
    obtain ⟨c, rest, rfl⟩ := List.exists_cons_of_ne_nil hSome
    exact List.dropWhile_cons_of_neg (by simp [hFirst c rfl])
  have hTyped : typed (String.ofList text ++ ".") = text ++ ['.'] := by
    have hText : (String.ofList text ++ ".").toList = text ++ ['.'] := by simp
    rw [typed, hText, hStart]
    cases hAfter : Text.afterStart? ['$', '\x7b'] (text ++ ['.']) with
    | none => rfl
    | some rest =>
      have hPrefix : ['$', '\x7b'] <+: text ++ ['.'] :=
        ⟨rest, (Text.afterStart?_eq_some_iff.mp hAfter).symm⟩
      rcases List.prefix_concat_iff.mp hPrefix with hEq | hText
      · have hEnd := congrArg List.getLast? hEq
        rw [List.getLast?_concat] at hEnd
        cases hEnd
      · exact absurd hText hBare
  unfold complete
  dsimp only
  rw [hTyped, openArgument?_point hClosed, hLimit]
  dsimp only
  rw [Text.trim_of_ends hFirst hLast, forFragment, List.reverse_concat]
  simp only [List.reverse_reverse]

/-! ## Indices at the end -/

theorem isDecimalDigit_of_isDigit {c : Char} (h : c.isDigit = true) :
    Text.isDecimalDigit c = true := by
  have hSmall : c.toNat < 0x80 := by
    simp only [Char.isDigit, ge_iff_le, Bool.and_eq_true, decide_eq_true_eq,
      UInt32.le_iff_toNat_le] at h
    have hHigh : c.toNat ≤ 57 := h.2
    omega
  rw [Text.isDecimalDigit, if_pos hSmall, h]

/-- An index is found behind a text in one line. -/
theorem indexedList?_index {list : List Char} (hSome : list ≠ []) (i : Nat) :
    indexedList? (list ++ (Segment.index i).text) = if '\n' ∈ list then none else some list := by
  have hReverse : (list ++ (Segment.index i).text).reverse
      = ']' :: ((Nat.toDigits 10 i).reverse ++ '[' :: list.reverse) := by
    simp [Segment.text]
  have hDigits : ∀ c ∈ (Nat.toDigits 10 i).reverse, Text.isDecimalDigit c = true :=
    fun c hc => isDecimalDigit_of_isDigit (isDigit_of_mem_digits (List.mem_reverse.mp hc))
  obtain ⟨hTake, hDrop⟩ := takeWhile_append_ends hDigits
    (Ends.cons (p := Text.isDecimalDigit) (c := '[') rfl list.reverse)
  unfold indexedList?
  rw [hReverse]
  simp only [hTake, hDrop]
  simp [Nat.toDigits_ne_nil, hSome]

theorem eq_of_indexedList? {text list : List Char} (h : indexedList? text = some list) :
    ∃ digits, text = list ++ '[' :: (digits ++ [']']) ∧
      ∀ c ∈ digits, Text.isDecimalDigit c = true := by
  unfold indexedList? at h
  split at h
  · rename_i rest hText
    dsimp only at h
    split at h
    · rename_i before hRest
      split at h
      · cases h
        refine ⟨(rest.takeWhile Text.isDecimalDigit).reverse, ?_, fun c hc => ?_⟩
        · have hSplit := List.takeWhile_append_dropWhile (p := Text.isDecimalDigit) (l := rest)
          rw [hRest] at hSplit
          calc text = (']' :: rest).reverse := by rw [← hText, List.reverse_reverse]
            _ = (']' :: (rest.takeWhile Text.isDecimalDigit ++ '[' :: before)).reverse := by
              rw [hSplit]
            _ = _ := by simp
        · exact all_of_mem_takeWhile _ (List.mem_reverse.mp hc)
      · cases h
    · cases h
  · cases h

/-- No index is found behind a key. -/
theorem indexedList?_key {front : Path} {name : String}
    (h : ReadBack (front ++ [Segment.key name])) :
    indexedList? (join (front ++ [Segment.key name])) = none := by
  obtain ⟨-, hNeat⟩ := Path.parse?_join_iff.mp h
  have hName : (Segment.key name).Neat :=
    hNeat _ (List.mem_append_right _ (List.mem_singleton_self _))
  -- What stands in front of the key ends in a point.
  obtain ⟨before, hText, hPoint⟩ : ∃ before,
      join (front ++ [Segment.key name]) = before ++ name.toList ∧
        ∀ c ∈ before.getLast?, c = '.' := by
    by_cases hFront : front = []
    · exact ⟨[], by rw [hFront]; exact List.append_nil _, nofun⟩
    · refine ⟨join front ++ ['.'], ?_, ?_⟩
      · rw [Path.join_append_key hFront, List.append_assoc, List.singleton_append]
      · rw [List.getLast?_concat]
        rintro c ⟨⟩
        rfl
  refine Option.eq_none_iff_forall_ne_some.mpr fun list hFound => ?_
  obtain ⟨digits, hIndex, hDigits⟩ := eq_of_indexedList? hFound
  rw [hText] at hIndex
  rcases List.append_eq_append_iff.mp hIndex with ⟨more, -, hMore⟩ | ⟨more, hBefore, hMore⟩
  · exact hName.bracket (hMore ▸ List.mem_append_right _ List.mem_cons_self)
  · have hLast := hPoint
    rw [hBefore] at hLast
    rcases more.eq_nil_or_concat with rfl | ⟨rest, c, rfl⟩
    · rw [List.nil_append] at hMore
      exact hName.bracket (hMore ▸ List.mem_cons_self)
    · rw [List.concat_eq_append, ← List.append_assoc, List.getLast?_concat] at hLast
      obtain rfl := hLast c rfl
      -- There is no point in an index.
      have hMem : '.' ∈ '[' :: (digits ++ [']']) := by
        rw [hMore]
        simp
      simp only [List.mem_cons, List.mem_append, List.not_mem_nil, or_false] at hMem
      rcases hMem with he | hDigit | he
      · cases he
      · cases hDigits _ hDigit
      · cases he

/-! ## Children -/

theorem text_first : (Segment.index 0).text = "[0]".toList := by decide +kernel

theorem toList_ofPath (settings : SuggestionSettings) (path : Path) (v : Value) :
    (ofPath settings (path, v)).expression.toList = join path := String.toList_ofList

theorem fieldOf_ofList (text : List Char) (name : String) :
    fieldOf (String.ofList text) name = String.ofList (text ++ '.' :: name.toList) := by
  simp [fieldOf, ← String.toList_inj]

/-- The suggestions of the fields of what a path leads to, under another expression. -/
def fieldsUnder (settings : SuggestionSettings) (registry : Registry) (path : Path)
    (expression : String) : List Suggestion :=
  (registry.fieldsAt path).map fun field =>
    { ofPath settings (path ++ [Segment.key field.1], field.2) with
      expression := fieldOf expression field.1 }

theorem fieldsUnder_expression (settings : SuggestionSettings) (registry : Registry) {path : Path}
    (h : path ≠ []) : fieldsUnder settings registry path path.expression
      = (registry.fieldsAt path).map fun field =>
        ofPath settings (path ++ [Segment.key field.1], field.2) := by
  refine List.map_congr_left fun field _ => ?_
  rw [Path.expression, fieldOf_ofList, ← Path.join_append_key h]
  rfl

end Suggestion

namespace Registry.Spelled

open Suggestion
open TextTemplate.Path (join ReadBack)

variable {registry : Registry} (h : registry.Spelled) {settings : SuggestionSettings}

include h

theorem line_not_mem {path : Path} {v : Value} (hFirst : path.FirstItems)
    (hResolve : registry.resolve? path = some v) : '\n' ∉ join path := by
  obtain ⟨⟨root, rest, rfl⟩, hLegible⟩ := h.legible hFirst hResolve
  obtain ⟨hRoot, hRest⟩ := List.forall_mem_cons.mp hLegible
  exact fun hMem => absurd (Path.join_not_blank hRoot hRest _ hMem) (by decide)

/-- The suggestion for a text is the one of the path with this text. -/
theorem find?_text {path : Path} (hPath : path.ReadBack) (hFirst : path.FirstItems) :
    (all settings registry).find? (fun s => !s.isFunction && s.expression.toList == join path)
      = (registry.resolve? path).map fun v => ofPath settings (path, v) := by
  have hSearch (entry : Path × Value) : (!(ofPath settings entry).isFunction &&
      (ofPath settings entry).expression.toList == join path) = true ↔
        join entry.1 = join path := by
    simp [ofPath, ofValue]
  rw [← List.head?_filter, h.filter_text hPath hFirst (fun _ _ => rfl) hSearch]
  cases registry.resolve? path <;> rfl

/-- There is no suggestion for a text of several lines. -/
theorem find?_line {text : List Char} (hLine : '\n' ∈ text) :
    (all settings registry).find? (fun s => !s.isFunction && s.expression.toList == text)
      = none := by
  refine List.find?_eq_none.mpr fun s hs hFound => ?_
  obtain ⟨hValue, hText⟩ := Bool.and_eq_true_iff.mp hFound
  have hMem : s ∈ Suggestion.values settings registry := List.mem_filter.mpr ⟨hs, hValue⟩
  rw [values_eq] at hMem
  obtain ⟨⟨path, v⟩, hReach, rfl⟩ := List.mem_map.mp hMem
  obtain ⟨hFirst, hResolve⟩ := h.mem_reachFields_iff.mp hReach
  have hJoin : join path = text := by simpa [ofPath, ofValue] using hText
  exact h.line_not_mem hFirst hResolve (hJoin ▸ hLine)

/-- Behind an index, the fields of the first item are listed under this index. -/
theorem childrenAfterPoint_index (hFunctions : ∀ entry ∈ registry.functions, IsWord entry.1)
    {front : Path} (hPath : ReadBack (front ++ [Segment.index 0]))
    (hFirst : Path.FirstItems (front ++ [Segment.index 0])) (i : Nat) :
    childrenAfterPoint (all settings registry) (join (front ++ [Segment.index i]))
      = fieldsUnder settings registry (front ++ [Segment.index 0])
          (Path.expression (front ++ [Segment.index i])) := by
  have hText (n : Nat) := Path.join_append_index hPath.front.ne_nil n
  have hIndexed := indexedList?_index hPath.front.join_ne_nil i
  rw [← hText] at hIndexed
  unfold childrenAfterPoint
  rw [hIndexed]
  by_cases hLine : '\n' ∈ join front
  · rw [if_pos hLine]
    have hParent : '\n' ∈ join (front ++ [Segment.index i]) := by
      rw [hText]
      exact List.mem_append_left _ hLine
    have hNowhere : registry.fieldsAt (front ++ [Segment.index 0]) = [] := by
      refine Registry.fieldsAt_eq_nil fun fields hResolve => h.line_not_mem hFirst hResolve ?_
      rw [hText]
      exact List.mem_append_left _ hLine
    rw [fieldsUnder, hNowhere]
    dsimp only
    rw [h.find?_line hParent, List.map_nil]
  · rw [if_neg hLine]
    have hZero : join front ++ "[0]".toList = join (front ++ [Segment.index 0]) := by
      rw [hText, text_first]
    dsimp only
    rw [hZero, h.childrenOf_all hFunctions hPath hFirst, List.map_map]
    refine List.map_congr_left fun field _ => ?_
    rw [Function.comp_apply, toList_ofPath, Path.join_append_key hPath.ne_nil, List.drop_left,
      Path.expression, fieldOf_ofList]

theorem filter_firstItem (hFunctions : ∀ entry ∈ registry.functions, IsWord entry.1)
    {path : Path} (hPath : path.ReadBack) (hFirst : path.FirstItems) :
    (all settings registry).filter
        (fun other => other.expression == firstItemOf path.expression)
      = (registry.resolve? (path ++ [Segment.index 0])).toList.map fun v =>
        ofPath settings (path ++ [Segment.index 0], v) := by
  have hItem : (Segment.index 0).Neat := readSegment_first.legible
  refine h.filter_text (hPath.append hItem) hFirst.append_first (fun entry hEntry => ?_)
    fun entry => ?_
  · -- There is no bracket in the name of a function.
    refine beq_eq_false_iff_ne.mpr fun hName => ?_
    have hBracket : '[' ∈ entry.1.toList := by
      have hExpression : entry.1 = firstItemOf path.expression := hName
      simp [hExpression, firstItemOf]
    exact ((hFunctions entry hEntry).legible.2 _ hBracket).2.2 rfl
  · rw [Path.expression, firstItemOf_join hPath.ne_nil, beq_iff_eq]
    exact String.ofList_inj

/-- Without an index at the end, the fields of an object are listed, or the first item of a list. -/
theorem childrenAfterPoint_of_not_indexed
    (hFunctions : ∀ entry ∈ registry.functions, IsWord entry.1) {path : Path}
    (hPath : path.ReadBack) (hFirst : path.FirstItems) (hKey : indexedList? (join path) = none) :
    childrenAfterPoint (all settings registry) (join path)
      = fieldsUnder settings registry path path.expression
        ++ (registry.resolve? (path ++ [Segment.index 0])).toList.map fun v =>
          ofPath settings (path ++ [Segment.index 0], v) := by
  unfold childrenAfterPoint
  rw [hKey]
  dsimp only
  rw [h.find?_text hPath hFirst, fieldsUnder_expression settings registry hPath.ne_nil]
  cases hResolve : registry.resolve? path with
  | none =>
    have hFields : registry.fieldsAt path = [] := by
      rw [Registry.fieldsAt, hResolve]
      rfl
    rw [registry.resolve?_append hPath.ne_nil, hResolve, hFields]
    rfl
  | some v =>
    rw [Option.map_some]
    dsimp only
    split
    · rename_i l hList
      have hFields : registry.fieldsAt path = [] := by
        refine Registry.fieldsAt_eq_nil fun fields hObject => ?_
        cases hResolve.symm.trans hObject
        cases hList
      rw [firstItem_ofValue hList]
      refine (h.filter_firstItem hFunctions hPath hFirst).trans ?_
      rw [hFields, List.map_nil, List.nil_append]
    · rename_i hList
      have hNone : registry.resolve? (path ++ [Segment.index 0]) = none := by
        refine Option.eq_none_iff_forall_ne_some.mpr fun item hItem => ?_
        obtain ⟨rest, hItems⟩ := (Registry.resolve?_first hPath.ne_nil).mp hItem
        cases hResolve.symm.trans hItems
        cases hList
      rw [h.childrenOf_all hFunctions hPath hFirst, hNone, Option.toList_none, List.map_nil,
        List.append_nil]

theorem mem_values {path : Path} {v : Value} (hFirst : path.FirstItems)
    (hResolve : registry.resolve? path = some v) :
    ofPath settings (path, v) ∈ Suggestion.values settings registry := by
  rw [values_eq]
  exact List.mem_map_of_mem (h.mem_reachFields_iff.mpr ⟨hFirst, hResolve⟩)

end Registry.Spelled

/-! ## Paths that can be typed -/

/-- A step into a list, led to its first item. -/
def Segment.toFirst : Segment → Segment
  | .key name => .key name
  | .index _ => .index 0

namespace Path

/-- The path whose last step, if it is an index, leads to the first item. -/
def toFirst (path : Path) : Path := path.modifyLast Segment.toFirst

theorem toFirst_concat (front : Path) (segment : Segment) :
    toFirst (front ++ [segment]) = front ++ [segment.toFirst] :=
  List.modifyLast_concat Segment.toFirst segment front

theorem exists_concat {path : Path} (h : path ≠ []) :
    ∃ front segment, path = front ++ [segment] := by
  obtain ⟨front, segment, hPath⟩ := path.eq_nil_or_concat.resolve_left h
  exact ⟨front, segment, hPath.trans List.concat_eq_append⟩

theorem toFirst_key (root : String) (rest : Path) :
    ∃ more, toFirst (.key root :: rest) = .key root :: more := by
  by_cases hRest : rest = []
  · rw [hRest]
    exact ⟨[], toFirst_concat [] (.key root)⟩
  · obtain ⟨front, segment, rfl⟩ := exists_concat hRest
    exact ⟨_, toFirst_concat (.key root :: front) segment⟩

theorem key_mem_of_toFirst {path : Path} (h : path ≠ []) {name : String}
    (hMem : .key name ∈ toFirst path) : .key name ∈ path := by
  obtain ⟨front, segment, rfl⟩ := exists_concat h
  rw [toFirst_concat] at hMem
  rcases List.mem_append.mp hMem with hMem | hMem
  · exact List.mem_append_left _ hMem
  · cases segment <;> cases List.mem_singleton.mp hMem
    exact List.mem_append_right _ List.mem_cons_self

/-- What is typed for the path is taken for it: its keys stand for themselves, and its text leaves
no call open and does not open a placeholder. -/
structure Typed (path : Path) : Prop where
  root : ∃ root rest, path = .key root :: rest
  keys (name : String) : .key name ∈ path → NeatKey name
  closed : Suggestion.openArgument? (join path) = none
  bare : ¬ ['$', '\x7b'] <+: join path

namespace Typed

variable {path : Path} (h : path.Typed)

include h

theorem ne_nil : path ≠ [] := by
  obtain ⟨root, rest, rfl⟩ := h.root
  exact List.cons_ne_nil _ _

theorem readBack (hFirst : path.toFirst.FirstItems) : path.toFirst.ReadBack := by
  refine parse?_join_iff.mpr ⟨?_, fun segment hMem => ?_⟩
  · obtain ⟨root, rest, rfl⟩ := h.root
    exact ⟨root, toFirst_key root rest⟩
  · cases segment with
    | key name => exact h.keys name (key_mem_of_toFirst h.ne_nil hMem)
    | index i =>
      obtain rfl := hFirst i hMem
      exact readSegment_first.legible

theorem join_ne_nil : join path ≠ [] := by
  obtain ⟨root, rest, rfl⟩ := h.root
  have hRoot := h.keys root List.mem_cons_self
  exact fun hNil => hRoot.toList_ne_nil (List.append_eq_nil_iff.mp hNil).1

theorem trim (hFirst : path.toFirst.FirstItems) : Text.trim (join path) = join path := by
  have hRead := h.readBack hFirst
  obtain ⟨front, segment, rfl⟩ := exists_concat h.ne_nil
  rw [toFirst_concat] at hRead
  cases segment with
  | key name => exact hRead.trim
  | index i =>
    have hFront := hRead.front
    rw [join_append_index hFront.ne_nil]
    refine Text.trim_of_ends ?_ ?_
    · have hHead := Text.head?_trim (join front)
      rw [hFront.trim] at hHead
      obtain ⟨c, rest, hText⟩ := List.exists_cons_of_ne_nil hFront.join_ne_nil
      rw [hText] at hHead ⊢
      exact hHead
    · have hBracket : (Segment.index i).text = '[' :: Nat.toDigits 10 i ++ [']'] := rfl
      rw [hBracket, ← List.append_assoc, List.getLast?_concat]
      rintro c ⟨⟩
      rfl

end Typed

/-- What paths of words are written with. -/
def writesWords (c : Char) : Bool := isNamePart c || c.isDigit || c == '.' || c == '[' || c == ']'

theorem writesWords_joinRest {path : Path} (h : ∀ name, .key name ∈ path → IsWord name) :
    ∀ c ∈ joinRest path, writesWords c = true := by
  have hWord {name : String} (hName : IsWord name) : ∀ c ∈ name.toList, writesWords c = true :=
    fun c hc => by simp [writesWords, hName.isNamePart c hc]
  have hDigits (i : Nat) : ∀ c ∈ Nat.toDigits 10 i, writesWords c = true :=
    fun c hc => by simp [writesWords, isDigit_of_mem_digits hc]
  induction path with
  | nil => exact List.forall_mem_nil _
  | cons segment rest ih =>
    have hRest := ih fun name hMem => h name (List.mem_cons_of_mem _ hMem)
    cases segment with
    | key name =>
      simp only [joinRest, List.cons_append, List.forall_mem_cons, List.forall_mem_append]
      exact ⟨by decide +kernel, hWord (h name List.mem_cons_self), hRest⟩
    | index i =>
      simp only [joinRest, Segment.text, List.cons_append, List.forall_mem_cons,
        List.forall_mem_append]
      exact ⟨by decide +kernel, ⟨hDigits i, by decide +kernel, List.forall_mem_nil _⟩, hRest⟩

/-- Words can be typed. -/
theorem typed_of_words {root : String} {rest : Path}
    (h : ∀ name, .key name ∈ Segment.key root :: rest → IsWord name) :
    Typed (.key root :: rest) := by
  have hRest := writesWords_joinRest fun name hMem => h name (List.mem_cons_of_mem _ hMem)
  have hChars : ∀ c ∈ join (.key root :: rest), writesWords c = true :=
    List.forall_mem_append.mpr
      ⟨fun c hc => by simp [writesWords, (h root List.mem_cons_self).isNamePart c hc], hRest⟩
  refine ⟨⟨root, rest, rfl⟩, fun name hMem => (h name hMem).legible.neat,
    Suggestion.openArgument?_of_not_mem fun hCall => ?_, fun hOpen => ?_⟩
  · exact absurd (hChars '(' hCall) (by decide +kernel)
  · have hBrace := hOpen.subset (List.mem_cons_of_mem _ List.mem_cons_self)
    exact absurd (hChars '\x7b' hBrace) (by decide +kernel)

end Path

namespace Suggestion

open TextTemplate.Path (join ReadBack)

/-! ## The statement -/

/-- The children of what a path leads to are listed. -/
structure ListsChildren (settings : SuggestionSettings) (registry : Registry) (path : Path)
    (found : List Suggestion) : Prop where
  /-- Those of an object are its fields, each once and in the order of their names. Under an index,
  they are listed as those of the first item, but for the expression. -/
  fields (fields : Fields) : registry.resolve? path.toFirst = some (.object fields) →
    fields.Ordered ∧ List.Forall₂ (fun name s => ∃ generated ∈ values settings registry,
      generated.expression = fieldOf path.toFirst.expression name ∧
        s = { generated with expression := fieldOf path.expression name }) fields.names found
  /-- That of a list behind a key is its first item. -/
  item (front : Path) (name : String) (first : Value) (rest : List Value) :
    path = front ++ [Segment.key name] → registry.resolve? path = some (.list (first :: rest)) →
      ∃ generated ∈ values settings registry,
        generated.expression = firstItemOf path.expression ∧ found = [generated]
  /-- Nothing else has children. -/
  nothing : (∀ fields, registry.resolve? path.toFirst ≠ some (.object fields)) →
    (∀ front name first rest, path = front ++ [Segment.key name] →
      registry.resolve? path ≠ some (.list (first :: rest))) → found = []
  /-- What is listed is one step below the path. -/
  below (s : Suggestion) : s ∈ found → s.expression = firstItemOf path.expression ∨
    ∃ name, Path.NeatKey name ∧ s.expression = fieldOf path.expression name

/-- After a point, the children of every path through first items are listed, under any index at its
end. -/
def CompletesEveryPath : Prop :=
  ∀ (settings : SuggestionSettings) (registry : Registry) (path : Path),
    settings.limit = none → registry.Spelled → (∀ entry ∈ registry.functions, IsWord entry.1) →
      (∃ root rest, path = .key root :: rest) → (∀ i, .index i ∈ path → i < Path.indexLimit) →
        path.toFirst.FirstItems →
          ListsChildren settings registry path
            (complete settings (all settings registry) (path.expression ++ "."))

/-! ### Texts that are taken for something else -/

/-- A variable with a field that is an object. -/
def userRegistry : Registry :=
  Registry.empty.setVariable "user" (.object [("address", .object [("street", .text "Elm")])])

theorem spelled_userRegistry : userRegistry.Spelled := by
  have hAddress := @Value.named_field "street" _ (by decide +kernel) (.text "Elm")
  have hUser := @Value.named_field "address" _ (by decide +kernel) hAddress
  exact (Registry.named_empty.setVariable (by decide +kernel) hUser).spelled

/-- An open call, an open placeholder, a point and white space, all within a key. -/
def misread : List Path :=
  [[.key "f(user"], [.key "$\x7buser"], [.key "user.address"], [.key " user"]]

/-- Paths that lead nowhere, with the children of others. -/
theorem complete_misread : ∀ path ∈ misread, userRegistry.resolve? path = none ∧
    complete {} (all {} userRegistry) (path.expression ++ ".") ≠ [] := by
  have hNowhere : ∀ path ∈ misread, (userRegistry.resolve? path).isNone = true := by decide +kernel
  have hFound : ∀ path ∈ misread,
      (complete {} (all {} userRegistry) (path.expression ++ ".")).isEmpty = false := by
    decide +kernel
  intro path hMem
  exact ⟨Option.isNone_iff_eq_none.mp (hNowhere path hMem),
    List.isEmpty_eq_false_iff.mp (hFound path hMem)⟩

theorem not_completesEveryPath : ¬ CompletesEveryPath := by
  intro h
  have hMem : [Segment.key "f(user"] ∈ misread := List.mem_cons_self
  obtain ⟨hNowhere, hFound⟩ := complete_misread _ hMem
  have hFirst : Path.toFirst [Segment.key "f(user"] = [Segment.key "f(user"] :=
    Path.toFirst_concat [] (.key "f(user")
  refine hFound ((h {} userRegistry _ rfl spelled_userRegistry (List.forall_mem_nil _)
    ⟨_, _, rfl⟩ (by simp) ?_).nothing ?_ ?_)
  · rw [hFirst]
    exact fun i hi => by simp at hi
  · rw [hFirst, hNowhere]
    exact nofun
  · rw [hNowhere]
    exact nofun

/-! ### Paths that can be typed -/

theorem fieldsUnder_below {settings : SuggestionSettings} {registry : Registry}
    (h : registry.Spelled) {path : Path} (hPath : path.ReadBack) (hFirst : path.FirstItems)
    {expression : String} {s : Suggestion}
    (hs : s ∈ fieldsUnder settings registry path expression) :
    ∃ name, Path.NeatKey name ∧ s.expression = fieldOf expression name := by
  obtain ⟨⟨name, v⟩, hMem, rfl⟩ := List.mem_map.mp hs
  have hResolve := (h.mem_fieldsAt hPath.ne_nil).mp hMem
  have hLegible := (h.legible (hFirst.append_key name) hResolve).2 (.key name)
    (List.mem_append_right _ (List.mem_singleton_self _))
  exact ⟨name, hLegible.neat, rfl⟩

/-- The fields of an object, with what they were made from. -/
theorem forall₂_fieldsUnder (settings : SuggestionSettings) {registry : Registry}
    (h : registry.Spelled) {path : Path} (hPath : path.ReadBack) (hFirst : path.FirstItems)
    (expression : String) : List.Forall₂ (fun name s => ∃ generated ∈ values settings registry,
      generated.expression = fieldOf path.expression name ∧
        s = { generated with expression := fieldOf expression name })
      (registry.fieldsAt path).names (fieldsUnder settings registry path expression) := by
  rw [Table.names, fieldsUnder, List.forall₂_map_left_iff, List.forall₂_map_right_iff,
    List.forall₂_same]
  intro field hMem
  have hResolve := (h.mem_fieldsAt hPath.ne_nil).mp hMem
  refine ⟨_, h.mem_values (hFirst.append_key field.1) hResolve, ?_, rfl⟩
  rw [Path.expression, fieldOf_ofList, ← Path.join_append_key hPath.ne_nil]
  rfl

theorem listsChildren_index {settings : SuggestionSettings} {registry : Registry}
    (h : registry.Spelled) {front : Path} (hPath : ReadBack (front ++ [Segment.index 0]))
    (hFirst : Path.FirstItems (front ++ [Segment.index 0])) (i : Nat) :
    ListsChildren settings registry (front ++ [Segment.index i])
      (fieldsUnder settings registry (front ++ [Segment.index 0])
        (Path.expression (front ++ [Segment.index i]))) := by
  have hTo : Path.toFirst (front ++ [Segment.index i]) = front ++ [Segment.index 0] :=
    Path.toFirst_concat front (.index i)
  refine ⟨fun fields hObject => ?_, fun _ name _ _ hKey _ => ?_, fun hNone _ => ?_, fun s hs => ?_⟩
  · rw [hTo] at hObject ⊢
    obtain rfl := Registry.fieldsAt_of_object hObject
    exact ⟨h.ordered_fieldsAt _, forall₂_fieldsUnder settings h hPath hFirst _⟩
  · cases (List.append_inj' hKey rfl).2
  · rw [hTo] at hNone
    rw [fieldsUnder, Registry.fieldsAt_eq_nil hNone, List.map_nil]
  · exact .inr (fieldsUnder_below h hPath hFirst hs)

theorem listsChildren_key {settings : SuggestionSettings} {registry : Registry}
    (h : registry.Spelled) {front : Path} {name : String}
    (hPath : ReadBack (front ++ [Segment.key name]))
    (hFirst : Path.FirstItems (front ++ [Segment.key name])) :
    ListsChildren settings registry (front ++ [Segment.key name])
      (fieldsUnder settings registry (front ++ [Segment.key name])
          (Path.expression (front ++ [Segment.key name]))
        ++ (registry.resolve? (front ++ [Segment.key name] ++ [Segment.index 0])).toList.map
          fun v => ofPath settings (front ++ [Segment.key name] ++ [Segment.index 0], v)) := by
  have hTo : Path.toFirst (front ++ [Segment.key name]) = front ++ [Segment.key name] :=
    Path.toFirst_concat front (.key name)
  have hItem {v : Value} : registry.resolve? (front ++ [Segment.key name] ++ [Segment.index 0])
      = some v ↔ ∃ rest, registry.resolve? (front ++ [Segment.key name])
        = some (.list (v :: rest)) := Registry.resolve?_first hPath.ne_nil
  have hExpression := firstItemOf_join hPath.ne_nil
  refine ⟨fun fields hObject => ?_, fun _ _ first rest _ hList => ?_, fun hObject hList => ?_,
    fun s hs => ?_⟩
  · rw [hTo] at hObject ⊢
    have hNone : registry.resolve? (front ++ [Segment.key name] ++ [Segment.index 0]) = none := by
      refine Option.eq_none_iff_forall_ne_some.mpr fun v hv => ?_
      obtain ⟨rest, hList⟩ := hItem.mp hv
      cases hObject.symm.trans hList
    obtain rfl := Registry.fieldsAt_of_object hObject
    rw [hNone, Option.toList_none, List.map_nil, List.append_nil]
    exact ⟨h.ordered_fieldsAt _, forall₂_fieldsUnder settings h hPath hFirst _⟩
  · have hFields : registry.fieldsAt (front ++ [Segment.key name]) = [] := by
      refine Registry.fieldsAt_eq_nil fun fields hObject => ?_
      cases hObject.symm.trans hList
    have hResolve := hItem.mpr ⟨rest, hList⟩
    refine ⟨_, h.mem_values hFirst.append_first hResolve, hExpression.symm, ?_⟩
    rw [fieldsUnder, hFields, hResolve]
    rfl
  · rw [hTo] at hObject
    have hNone : registry.resolve? (front ++ [Segment.key name] ++ [Segment.index 0]) = none := by
      refine Option.eq_none_iff_forall_ne_some.mpr fun v hv => ?_
      obtain ⟨rest, hResolve⟩ := hItem.mp hv
      exact hList front name v rest rfl hResolve
    rw [fieldsUnder, Registry.fieldsAt_eq_nil hObject, hNone]
    rfl
  · rcases List.mem_append.mp hs with hs | hs
    · exact .inr (fieldsUnder_below h hPath hFirst hs)
    · obtain ⟨v, -, rfl⟩ := List.mem_map.mp hs
      exact .inl hExpression.symm

/-- The children of every path that can be typed, through first items but for the index at its end,
are listed after a point. -/
theorem lists_children {settings : SuggestionSettings} {registry : Registry} {path : Path}
    (hLimit : settings.limit = none) (h : registry.Spelled)
    (hFunctions : ∀ entry ∈ registry.functions, IsWord entry.1) (hTyped : path.Typed)
    (hFirst : path.toFirst.FirstItems) :
    ListsChildren settings registry path
      (complete settings (all settings registry) (path.expression ++ ".")) := by
  have hRead := hTyped.readBack hFirst
  have hComplete : complete settings (all settings registry) (path.expression ++ ".")
      = childrenAfterPoint (all settings registry) (join path) :=
    complete_point hLimit _ (hTyped.trim hFirst) hTyped.join_ne_nil hTyped.closed hTyped.bare
  rw [hComplete]
  obtain ⟨front, segment, rfl⟩ := Path.exists_concat hTyped.ne_nil
  rw [Path.toFirst_concat] at hRead hFirst
  cases segment with
  | index i =>
    rw [Segment.toFirst] at hRead hFirst
    rw [h.childrenAfterPoint_index hFunctions hRead hFirst]
    exact listsChildren_index h hRead hFirst i
  | key name =>
    rw [Segment.toFirst] at hRead hFirst
    rw [h.childrenAfterPoint_of_not_indexed hFunctions hRead hFirst (indexedList?_key hRead)]
    exact listsChildren_key h hRead hFirst

/-- A list of objects in an object, beside names that start like its own. -/
theorem lists_children_orders :
    let order : Value := .object [("id", .text "7"), ("lines", .list [.null])]
    let user : Value := .object [("order", .null), ("orders", .list [order, .null])]
    let registered := (Registry.empty.setVariable "user" user).setVariable "username" (.text "ann")
    let users := Registry.undocumented "users" fun _ => .ok .null
    let registry := registered.setFunction "users" users
    let path : Path := [.key "user", .key "orders", .index 3]
    let found (partialText : String) :=
      (complete {} (all {} registry) partialText).map Suggestion.expression
    registry.Spelled ∧ path.Typed ∧
      ListsChildren {} registry path (complete {} (all {} registry) (path.expression ++ ".")) ∧
      found "user.orders[3]." = ["user.orders[3].id", "user.orders[3].lines"] ∧
      found "user.orders." = ["user.orders[0]"] ∧ found "user." = ["user.order", "user.orders"] ∧
      found "username." = [] := by
  intro order user registered users registry path found
  have hOrder : order.Named := by
    refine .object ⟨by unfold Table.Ordered; decide +kernel, by decide +kernel⟩ ?_
    exact List.forall_mem_cons.mpr ⟨.text "7",
      List.forall_mem_singleton.mpr (.list (List.forall_mem_singleton.mpr .null))⟩
  have hUser : user.Named := by
    refine .object ⟨by unfold Table.Ordered; decide +kernel, by decide +kernel⟩ ?_
    refine List.forall_mem_cons.mpr ⟨.null, List.forall_mem_singleton.mpr (.list ?_)⟩
    exact List.forall_mem_cons.mpr ⟨hOrder, List.forall_mem_singleton.mpr .null⟩
  have hRegistered : registered.Spelled :=
    ((Registry.named_empty.setVariable (by decide +kernel) hUser).setVariable (by decide +kernel)
      (.text "ann")).spelled
  have hRegistry : registry.Spelled := ⟨hRegistered.ordered, hRegistered.roots, hRegistered.values⟩
  have hFunctions : ∀ entry ∈ registry.functions, IsWord entry.1 :=
    List.forall_mem_singleton.mpr (by decide +kernel)
  have hTyped : path.Typed := by
    refine Path.typed_of_words fun name hName => ?_
    simp only [List.mem_cons, Segment.key.injEq, reduceCtorEq, List.not_mem_nil, or_false]
      at hName
    rcases hName with rfl | rfl <;> decide +kernel
  have hFirst : path.toFirst.FirstItems := by
    intro i hi
    have hItem : path.toFirst = [.key "user", .key "orders", .index 0] := rfl
    rw [hItem] at hi
    simpa using hi
  exact ⟨hRegistry, hTyped, lists_children rfl hRegistry hFunctions hTyped hFirst,
    by decide +kernel, by decide +kernel, by decide +kernel, by decide +kernel⟩

end Suggestion

end TextTemplate
