import TextTemplate.Proofs.Path.Tokens

/-!
# The texts and the steps of paths

What the reader of paths has found is neat, and what is neat is read back from its text. So a path
is read back just if it is one that the reader can find, and reading the text of a path that was
read changes nothing.

* `neat_of_field?`, `neat_of_indices?`: what is found between two points.
* `neat_of_parse?`: a path that was read starts with a key and has neat steps.
* `codec_exact`: both directions together.
-/

namespace TextTemplate.Path

theorem index?_lt {inner : List Char} {i : Nat} (h : index? inner = some i) : i < indexLimit := by
  unfold index? at h
  dsimp only at h
  split at h
  · split at h
    · rename_i hLimit
      cases h
      exact hLimit
    · cases h
  · cases h

theorem neat_of_indices? {text : List Char} {steps : List Segment}
    (h : indices? none text = some steps) : ∀ segment ∈ steps, segment.Neat := by
  induction steps generalizing text with
  | nil => exact List.forall_mem_nil _
  | cons step steps ih =>
    rcases indices?_eq_some h with ⟨-, hNil⟩ | ⟨inner, after, i, more, rfl, hIndex, hMore, hEq⟩
    · cases hNil
    · cases hEq
      exact List.forall_mem_cons.mpr ⟨index?_lt hIndex, ih hMore⟩

theorem mem_of_mem_trim {text : List Char} {c : Char} (h : c ∈ Text.trim text) : c ∈ text := by
  obtain ⟨before, after, hText, -, -⟩ := Text.exists_trim text
  rw [hText]
  exact List.mem_append_right _ (List.mem_append_left _ h)

/-- The key of a field ends at the first bracket and is trimmed. -/
theorem neat_of_field? {text : List Char} {steps : List Segment} (hPoint : '.' ∉ text)
    (h : field? text = some steps) : ∀ segment ∈ steps, segment.Neat := by
  unfold field? at h
  dsimp only at h
  split at h
  · cases h
  · rename_i hName
    obtain ⟨more, hMore, rfl⟩ := Option.map_eq_some_iff.mp h
    refine List.forall_mem_cons.mpr ⟨?_, neat_of_indices? hMore⟩
    refine ⟨fun he => hName ?_, ?_, fun hMem => hPoint ?_, fun hMem => ?_⟩
    · rw [← String.toList_ofList (l := Text.trim _), he]
      rfl
    · rw [String.toList_ofList, Text.trim_trim]
    · rw [String.toList_ofList] at hMem
      exact (List.takeWhile_prefix _).subset (mem_of_mem_trim hMem)
    · rw [String.toList_ofList] at hMem
      have hKept := Lexer.all_of_mem_takeWhile _ (mem_of_mem_trim hMem)
      cases hKept

theorem point_not_mem_fields (text : List Char) : ∀ field ∈ fields text, '.' ∉ field := by
  induction text with
  | nil => simp [fields]
  | cons c rest ih =>
    obtain ⟨more, hRest⟩ := fields_eq_cons rest
    rw [fields]
    split
    · exact List.forall_mem_cons.mpr ⟨List.not_mem_nil, ih⟩
    · rename_i hc
      rw [hRest] at ih ⊢
      obtain ⟨hFirst, hMore⟩ := List.forall_mem_cons.mp ih
      refine List.forall_mem_cons.mpr ⟨fun hMem => ?_, hMore⟩
      rcases List.mem_cons.mp hMem with he | hMem
      · exact hc he.symm
      · exact hFirst hMem

theorem neat_of_mapM {texts : List (List Char)} {paths : List Path}
    (hPoint : ∀ text ∈ texts, '.' ∉ text) (h : texts.mapM field? = some paths) :
    ∀ segment ∈ paths.flatten, segment.Neat := by
  induction texts generalizing paths with
  | nil =>
    cases h
    exact List.forall_mem_nil _
  | cons text texts ih =>
    obtain ⟨hText, hTexts⟩ := List.forall_mem_cons.mp hPoint
    rw [List.mapM_cons] at h
    obtain ⟨steps, hField, h⟩ := Option.bind_eq_some_iff.mp h
    obtain ⟨others, hOthers, h⟩ := Option.bind_eq_some_iff.mp h
    cases h
    rw [List.flatten_cons]
    exact List.forall_mem_append.mpr ⟨neat_of_field? hText hField, ih hTexts hOthers⟩

/-- What was read starts with a key and is read back from its text. -/
theorem neat_of_parse? {text : String} {path : Path} (h : parse? text = some path) :
    (∃ root rest, path = .key root :: rest) ∧ ∀ segment ∈ path, segment.Neat := by
  obtain ⟨root, rest, hRoot, -⟩ := rootName?_of_parse? h
  refine ⟨⟨root, rest, hRoot⟩, ?_⟩
  unfold parse? parseChars? at h
  dsimp only at h
  split at h
  · cases h
  · obtain ⟨paths, hPaths, rfl⟩ := Option.map_eq_some_iff.mp h
    exact neat_of_mapM (point_not_mem_fields _) hPaths

/-- A path is read back from its text just if it starts with a key and its steps are neat. -/
theorem parse?_join_iff {path : Path} : parse? (String.ofList (join path)) = some path ↔
    (∃ root rest, path = .key root :: rest) ∧ ∀ segment ∈ path, segment.Neat := by
  refine ⟨neat_of_parse?, ?_⟩
  rintro ⟨⟨root, rest, rfl⟩, hNeat⟩
  obtain ⟨hRoot, hRest⟩ := List.forall_mem_cons.mp hNeat
  exact parse?_join_of_neat hRoot hRest

/-- A path, whose indices are below their bound, is read back from its text just if it starts with a
key and its keys stand for themselves; and so is every path that was read. -/
theorem codec_exact :
    (∀ path : Path, (∀ i, .index i ∈ path → i < indexLimit) →
      (parse? (String.ofList (join path)) = some path ↔
        (∃ root rest, path = .key root :: rest) ∧ ∀ name, .key name ∈ path → NeatKey name)) ∧
    ∀ (text : String) (path : Path), parse? text = some path →
      parse? (String.ofList (join path)) = some path := by
  refine ⟨fun path hIndices => ?_, fun text path h => parse?_join_iff.mpr (neat_of_parse? h)⟩
  rw [parse?_join_iff]
  refine and_congr_right fun _ => ⟨fun h name => h (.key name), fun h segment hMem => ?_⟩
  cases segment with
  | key name => exact h name hMem
  | index i => exact hIndices i hMem

/-- Keys with a blank and a closing bracket inside, and the greatest index; and a text with white
space and leading zeros. -/
theorem codec_exact_blanks :
    let path : Path := [.key "a b]", .index (indexLimit - 1), .index 0, .key "\u00e9"]
    let found : Path := [.key "a b]", .index 7, .index 1, .key "c"]
    (∀ i, .index i ∈ path → i < indexLimit) ∧ (∀ name, .key name ∈ path → NeatKey name) ∧
      parse? (String.ofList (join path)) = some path ∧
      parse? "\u00a0a b] [ 007 ][1]. c " = some found ∧
      parse? (String.ofList (join found)) = some found := by
  intro path found
  have hIndices : ∀ i, .index i ∈ path → i < indexLimit := by
    intro i hi
    simp only [path, List.mem_cons, Segment.index.injEq, reduceCtorEq, List.not_mem_nil, or_false,
      false_or] at hi
    rcases hi with rfl | rfl <;> decide +kernel
  have hKeys : ∀ name, .key name ∈ path → NeatKey name := by
    intro name hName
    simp only [path, List.mem_cons, Segment.key.injEq, reduceCtorEq, List.not_mem_nil, or_false,
      false_or] at hName
    rcases hName with rfl | rfl <;> decide +kernel
  have hRead : parse? "\u00a0a b] [ 007 ][1]. c " = some found := by decide +kernel
  refine ⟨hIndices, hKeys, ?_, hRead, codec_exact.2 _ found hRead⟩
  exact (codec_exact.1 path hIndices).mpr ⟨⟨"a b]", _, rfl⟩, hKeys⟩

end TextTemplate.Path
