import TextTemplate.Proofs.Path.Joined
import TextTemplate.Proofs.Path.Root
import TextTemplate.Proofs.Printer.Source

/-!
# The text of a path as tokens

The reader of paths divides a text at points and brackets and trims what it finds. Where the keys
are names for the lexer, the text consists of the tokens of the same path, white space and all.

* `field?_eq_some_iff`, `indices?_eq_some`, `fields_eq`: what the reader of paths has found.
* `Continues`: a text that goes on with fields and indices, token by token.
* `scans_of_parse?`: a text that is read as a path consists of its tokens.
-/

namespace TextTemplate

open Lexer Grammar

/-! ## White space -/

/-- A text is what remains of it, with white space around. -/
theorem Text.exists_trim (text : List Char) :
    ∃ before after, text = before ++ (trim text ++ after)
      ∧ (∀ c ∈ before, isBlank c = true) ∧ ∀ c ∈ after, isBlank c = true := by
  have hStart : text = text.takeWhile isBlank ++ trimStart text :=
    List.takeWhile_append_dropWhile.symm
  have hEnd : trimStart text
      = trim text ++ ((trimStart text).reverse.takeWhile isBlank).reverse := by
    rw [trim, trimEnd, ← List.reverse_append, List.takeWhile_append_dropWhile, List.reverse_reverse]
  refine ⟨_, _, hEnd ▸ hStart, all_of_mem_takeWhile, fun c hc => ?_⟩
  exact all_of_mem_takeWhile c (List.mem_reverse.mp hc)

theorem Lexer.Scans.blanks {blanks text : List Char} {ts : List Token}
    (hBlanks : ∀ c ∈ blanks, Text.isBlank c = true) (h : Scans text ts) :
    Scans (blanks ++ text) ts := by
  induction blanks with
  | nil => exact h
  | cons c blanks ih =>
    obtain ⟨hc, hRest⟩ := List.forall_mem_cons.mp hBlanks
    exact .blank hc (ih hRest)

/-- In front of the rest, white space ends what the rest ends. -/
theorem Lexer.Ends.blanks {p : Char → Bool} {blanks text : List Char}
    (hp : ∀ c, Text.isBlank c = true → p c = false)
    (hBlanks : ∀ c ∈ blanks, Text.isBlank c = true) (h : Ends p text) :
    Ends p (blanks ++ text) := by
  cases blanks with
  | nil => exact h
  | cons c blanks => exact Ends.cons (hp c (hBlanks c List.mem_cons_self)) _

namespace Path

/-! ## What the reader of paths has found -/

theorem index?_eq_some {inner : List Char} {i : Nat} (h : index? inner = some i) :
    Text.trim inner ≠ [] ∧ (∀ c ∈ Text.trim inner, c.isDigit = true)
      ∧ Nat.ofDigitChars 10 (Text.trim inner) 0 = i := by
  unfold index? at h
  dsimp only at h
  split at h
  · rename_i hDigits
    split at h
    · cases h
      exact ⟨hDigits.1, List.all_eq_true.mp hDigits.2, rfl⟩
    · cases h
  · cases h

/-- An index is what stands up to the first closing bracket. -/
theorem indices?_inner {done text : List Char} {steps : List Segment}
    (h : indices? (some done) text = some steps) :
    ∃ inner after i more, text = inner ++ ']' :: after ∧ index? (done.reverse ++ inner) = some i
      ∧ indices? none after = some more ∧ steps = .index i :: more := by
  induction text generalizing done with
  | nil => cases h
  | cons c text ih =>
    rw [indices?] at h
    split at h
    · rename_i hClosing
      obtain ⟨i, hIndex, h⟩ := Option.bind_eq_some_iff.mp h
      obtain ⟨more, hMore, h⟩ := Option.bind_eq_some_iff.mp h
      cases h
      exact ⟨[], text, i, more, by rw [hClosing, List.nil_append], by rwa [List.append_nil], hMore,
        rfl⟩
    · obtain ⟨inner, after, i, more, rfl, hIndex, hMore, hSteps⟩ := ih h
      refine ⟨c :: inner, after, i, more, rfl, ?_, hMore, hSteps⟩
      rwa [List.reverse_cons, List.append_assoc, List.singleton_append] at hIndex

/-- A run of indices is empty or starts with one in brackets. -/
theorem indices?_eq_some {text : List Char} {steps : List Segment}
    (h : indices? none text = some steps) : text = [] ∧ steps = [] ∨
      ∃ inner after i more, text = '[' :: (inner ++ ']' :: after) ∧ index? inner = some i
        ∧ indices? none after = some more ∧ steps = .index i :: more := by
  cases text with
  | nil =>
    cases h
    exact .inl ⟨rfl, rfl⟩
  | cons c text =>
    rw [indices?] at h
    split at h
    · rename_i hOpening
      obtain ⟨inner, after, i, more, rfl, hIndex, hMore, hSteps⟩ := indices?_inner h
      exact .inr ⟨inner, after, i, more, by rw [hOpening], hIndex, hMore, hSteps⟩
    · cases h

/-- A key with white space around it, and the indices behind it. -/
theorem exists_of_field? {text : List Char} {steps : List Segment} (h : field? text = some steps) :
    ∃ name before after indices more, text = before ++ (name.toList ++ (after ++ indices))
      ∧ (∀ c ∈ before, Text.isBlank c = true) ∧ (∀ c ∈ after, Text.isBlank c = true)
      ∧ indices? none indices = some more ∧ steps = .key name :: more := by
  unfold field? at h
  dsimp only at h
  split at h
  · cases h
  · obtain ⟨more, hMore, rfl⟩ := Option.map_eq_some_iff.mp h
    obtain ⟨before, after, hKey, hBefore, hAfter⟩ :=
      Text.exists_trim (text.takeWhile (· != '['))
    refine ⟨_, before, after, _, more, ?_, hBefore, hAfter, hMore, rfl⟩
    rw [String.toList_ofList, ← List.append_assoc (Text.trim _), ← List.append_assoc before, ← hKey]
    exact List.takeWhile_append_dropWhile.symm

/-- A text is its parts with points between them. -/
theorem fields_eq {text first : List Char} {more : List (List Char)}
    (h : fields text = first :: more) : text = first ++ more.flatMap ('.' :: ·) := by
  induction text generalizing first more with
  | nil =>
    cases h
    rfl
  | cons c text ih =>
    obtain ⟨others, hFields⟩ := fields_eq_cons text
    rw [fields, hFields] at h
    split at h
    · rename_i hPoint
      cases h
      rw [hPoint, List.nil_append, List.flatMap_cons, List.cons_append, ← ih hFields]
    · cases h
      rw [List.cons_append, ← ih hFields]

/-! ## Fields and indices as tokens -/

/-- The text goes on with the fields and indices of a path, and no name goes on into it. -/
structure Continues (text : List Char) (path : Path) : Prop where
  ends : Ends isNamePart text
  trail : ∃ ts, Scans text ts ∧ Trail ts path

/-- What both readers take for the same: the keys are names for the lexer, and the indices are
doubles. -/
structure Exact (path : Path) : Prop where
  keys (name : String) : .key name ∈ path → IsName name
  indices (i : Nat) : .index i ∈ path → i ≤ Nat.pow 2 53

theorem Exact.of_append {path more : Path} (h : Exact (path ++ more)) : Exact path ∧ Exact more :=
  ⟨⟨fun name hName => h.keys name (List.mem_append_left _ hName),
      fun i hi => h.indices i (List.mem_append_left _ hi)⟩,
    ⟨fun name hName => h.keys name (List.mem_append_right _ hName),
      fun i hi => h.indices i (List.mem_append_right _ hi)⟩⟩

theorem Exact.of_cons {segment : Segment} {path : Path} (h : Exact (segment :: path)) :
    Exact path :=
  ⟨fun name hName => h.keys name (List.mem_cons_of_mem _ hName),
    fun i hi => h.indices i (List.mem_cons_of_mem _ hi)⟩

theorem Continues.blanks {blanks text : List Char} {path : Path} (h : Continues text path)
    (hBlanks : ∀ c ∈ blanks, Text.isBlank c = true) : Continues (blanks ++ text) path := by
  obtain ⟨ts, hScans, hTrail⟩ := h.trail
  exact ⟨h.ends.blanks (fun _ => isNamePart_of_isBlank) hBlanks, ts, hScans.blanks hBlanks, hTrail⟩

theorem Continues.nil : Continues [] [] := ⟨Ends.nil _, [], .nil, .nil⟩

/-- Digits in brackets are an index token by token, with leading zeros and white space. -/
theorem Continues.index {inner text : List Char} {i : Nat} {path : Path}
    (hIndex : index? inner = some i) (hExact : i ≤ Nat.pow 2 53) (h : Continues text path) :
    Continues ('[' :: (inner ++ ']' :: text)) (.index i :: path) := by
  obtain ⟨ts, hScans, hTrail⟩ := h.trail
  obtain ⟨hSome, hDigits, hValue⟩ := index?_eq_some hIndex
  obtain ⟨before, after, hInner, hBefore, hAfter⟩ := Text.exists_trim inner
  have hClosing : Scans (']' :: text) (.rightBracket :: ts) := .token rfl rfl hScans
  have hEnds : EndsNumeral (after ++ ']' :: text) :=
    ⟨.blanks (fun _ => isDigit_of_isBlank) hAfter (Ends.cons rfl _),
      .blanks (fun _ => ne_point_of_isBlank) hAfter (Ends.cons rfl _)⟩
  have hNumber := Scans.numeral hSome hDigits (List.forall_mem_nil _) hEnds (hClosing.blanks hAfter)
  rw [Numeral.value_whole, hValue, Numeral.written, if_pos rfl, List.append_nil] at hNumber
  have hSmall : min i (indexLimit - 1) = i := by
    have hLimit : Nat.pow 2 53 ≤ indexLimit - 1 := by decide +kernel
    exact Nat.min_eq_left (Nat.le_trans hExact hLimit)
  have hTrail' := Trail.index (Number.whole?_ofNat_of_le hExact) hTrail
  rw [hSmall] at hTrail'
  refine ⟨Ends.cons rfl _, _, ?_, hTrail'⟩
  rw [hInner, List.append_assoc, List.append_assoc]
  exact .token rfl rfl (hNumber.blanks hBefore)

theorem Continues.indices {run text : List Char} {steps path : Path}
    (hSteps : indices? none run = some steps) (hExact : Exact steps) (h : Continues text path) :
    Continues (run ++ text) (steps ++ path) := by
  induction steps generalizing run with
  | nil =>
    rcases indices?_eq_some hSteps with ⟨rfl, -⟩ | ⟨_, _, _, _, -, -, -, hNil⟩
    · exact h
    · cases hNil
  | cons step steps ih =>
    rcases indices?_eq_some hSteps with ⟨-, hNil⟩ | ⟨inner, after, i, more, rfl, hIndex, hMore, hEq⟩
    · cases hNil
    · cases hEq
      have hRest := Continues.index hIndex (hExact.indices i List.mem_cons_self)
        (ih hMore hExact.of_cons)
      rw [List.cons_append, List.append_assoc, List.cons_append]
      exact hRest

/-- A part of a path between points: the word of its key, then its indices. -/
theorem Continues.field {text rest : List Char} {steps path : Path}
    (hField : field? text = some steps) (hExact : Exact steps) (h : Continues rest path) :
    ∃ name more ts, steps = .key name :: more ∧ IsWord name
      ∧ Scans (text ++ rest) (wordToken name :: ts) ∧ Trail ts (more ++ path) := by
  obtain ⟨name, before, after, indices, more, rfl, hBefore, hAfter, hMore, rfl⟩ :=
    exists_of_field? hField
  have hName : IsWord name := isWord_iff.mpr (hExact.keys name List.mem_cons_self)
  have hContinues := (h.indices hMore hExact.of_cons).blanks hAfter
  obtain ⟨ts, hScans, hTrail⟩ := hContinues.trail
  refine ⟨name, more, ts, rfl, hName, ?_, hTrail⟩
  have hWord := (Scans.word hName hContinues.ends hScans).blanks hBefore
  simpa only [List.append_assoc] using hWord

/-- Parts of a path behind points. -/
theorem Continues.fields {texts : List (List Char)} {paths : List Path} {rest : List Char}
    {path : Path} (hFields : texts.mapM field? = some paths) (hExact : Exact paths.flatten)
    (h : Continues rest path) :
    Continues (texts.flatMap ('.' :: ·) ++ rest) (paths.flatten ++ path) := by
  induction texts generalizing paths with
  | nil =>
    cases hFields
    exact h
  | cons text texts ih =>
    rw [List.mapM_cons] at hFields
    obtain ⟨steps, hField, hFields⟩ := Option.bind_eq_some_iff.mp hFields
    obtain ⟨others, hOthers, hFields⟩ := Option.bind_eq_some_iff.mp hFields
    cases hFields
    rw [List.flatten_cons] at hExact ⊢
    obtain ⟨name, more, ts, rfl, -, hScans, hTrail⟩ :=
      Continues.field hField hExact.of_append.1 (ih hOthers hExact.of_append.2)
    rw [List.flatMap_cons, List.append_assoc, List.append_assoc, List.cons_append]
    exact ⟨Ends.cons rfl _, .dot :: wordToken name :: ts, .token rfl rfl hScans,
      .field (field_wordToken name) hTrail⟩

/-- A text that is read as a path consists of the tokens of the path. -/
theorem scans_of_parse? {text : String} {path : Path} (h : parse? text = some path)
    (hExact : Exact path) :
    ∃ root rest ts, path = .key root :: rest ∧ IsWord root
      ∧ Scans text.toList (wordToken root :: ts) ∧ Trail ts rest := by
  unfold parse? parseChars? at h
  dsimp only at h
  split at h
  · cases h
  · obtain ⟨paths, hPaths, rfl⟩ := Option.map_eq_some_iff.mp h
    obtain ⟨before, after, hText, hBefore, hAfter⟩ := Text.exists_trim text.toList
    obtain ⟨more, hFields⟩ := fields_eq_cons (Text.trim text.toList)
    have hTrimmed := fields_eq hFields
    rw [hFields, List.mapM_cons] at hPaths
    obtain ⟨steps, hField, hPaths⟩ := Option.bind_eq_some_iff.mp hPaths
    obtain ⟨others, hOthers, hPaths⟩ := Option.bind_eq_some_iff.mp hPaths
    cases hPaths
    rw [List.flatten_cons] at hExact ⊢
    have hEnd : Continues after [] := by simpa using Continues.nil.blanks hAfter
    obtain ⟨root, first, ts, rfl, hRoot, hScans, hTrail⟩ :=
      Continues.field hField hExact.of_append.1 (hEnd.fields hOthers hExact.of_append.2)
    refine ⟨root, first ++ others.flatten, ts, rfl, hRoot, ?_, by rwa [List.append_nil] at hTrail⟩
    rw [hText, hTrimmed, List.append_assoc]
    exact hScans.blanks hBefore

end Path

end TextTemplate
