import TextTemplate.Path
import TextTemplate.Proofs.Lexer.Names
import TextTemplate.Proofs.Parser.Emitted

/-!
# The text of a path is read as the path

Keys without points, opening brackets and white space at their ends stand in the text of a path as
they are, and the text of an index is read as the index, if it is below the bound of indices.

* `Segment.Neat`: the steps whose text is read back.
* `Segment.Legible`: those without white space inside; `IsWord.legible`: words are among them.
* `fields_joinRest`: how the text of the steps after a key is divided, by induction on the path.
* `parse?_join_of_neat`: the text of a path of such steps is read as the path.
* `length_eq_countP`: it has one point or opening bracket for every step after the first.
-/

namespace TextTemplate

open Lexer (Ends takeWhile_append_ends digit_starts)

/-! ## White space at the ends -/

theorem Text.trim_of_ends {text : List Char} (hFirst : ∀ c ∈ text.head?, isBlank c = false)
    (hLast : ∀ c ∈ text.getLast?, isBlank c = false) : trim text = text := by
  have hDrop {s : List Char} (hs : ∀ c ∈ s.head?, isBlank c = false) : s.dropWhile isBlank = s := by
    cases s with
    | nil => rfl
    | cons c rest => exact List.dropWhile_cons_of_neg (by simp [hs c rfl])
  have hReverse : ∀ c ∈ text.reverse.head?, isBlank c = false := by rwa [List.head?_reverse]
  rw [trim, trimEnd, trimStart, hDrop hFirst, hDrop hReverse, List.reverse_reverse]

theorem Text.head?_trim (text : List Char) : ∀ c ∈ (trim text).head?, isBlank c = false := by
  intro c hc
  have hSuffix : (trimStart text).reverse.dropWhile isBlank <:+ (trimStart text).reverse :=
    List.dropWhile_suffix _
  obtain ⟨more, hMore⟩ : trim text <+: trimStart text := by
    have hPrefix := List.reverse_prefix.mpr hSuffix
    rwa [List.reverse_reverse] at hPrefix
  have hHead : (trimStart text).head? = some c := by
    rw [← hMore, List.head?_append, Option.mem_def.mp hc, Option.some_or]
  have hNot := List.head?_dropWhile_not isBlank text
  rw [trimStart] at hHead
  rwa [hHead] at hNot

theorem Text.getLast?_trim (text : List Char) : ∀ c ∈ (trim text).getLast?, isBlank c = false := by
  intro c hc
  rw [trim, trimEnd, List.getLast?_reverse] at hc
  have hNot := List.head?_dropWhile_not isBlank (trimStart text).reverse
  rwa [Option.mem_def.mp hc] at hNot

theorem Text.trim_trim (text : List Char) : trim (trim text) = trim text :=
  trim_of_ends (head?_trim text) (getLast?_trim text)

theorem Text.trim_of_not_blank {text : List Char} (h : ∀ c ∈ text, isBlank c = false) :
    trim text = text :=
  trim_of_ends (fun c hc => h c (List.mem_of_mem_head? hc)) fun c hc => h c (List.mem_of_getLast? hc)

/-! ## Steps that are read back -/

/-- A key that stands for itself in the text of a path. -/
structure Path.NeatKey (name : String) : Prop where
  nonempty : name ≠ ""
  trimmed : Text.trim name.toList = name.toList
  point : '.' ∉ name.toList
  bracket : '[' ∉ name.toList

instance (name : String) : Decidable (Path.NeatKey name) :=
  decidable_of_iff (name ≠ "" ∧ Text.trim name.toList = name.toList ∧ '.' ∉ name.toList ∧
      '[' ∉ name.toList)
    ⟨fun ⟨hSome, hTrimmed, hPoint, hBracket⟩ => ⟨hSome, hTrimmed, hPoint, hBracket⟩,
      fun h => ⟨h.nonempty, h.trimmed, h.point, h.bracket⟩⟩

namespace Path.NeatKey

variable {name : String} (h : NeatKey name)

include h

theorem toList_ne_nil : name.toList ≠ [] := fun he => h.nonempty (String.toList_inj.mp he)

theorem exists_first : ∃ c rest, name.toList = c :: rest ∧ Text.isBlank c = false := by
  obtain ⟨c, rest, hChars⟩ := List.exists_cons_of_ne_nil h.toList_ne_nil
  have hFirst := Text.head?_trim name.toList
  rw [h.trimmed, hChars] at hFirst
  exact ⟨c, rest, hChars, hFirst c rfl⟩

theorem exists_last : ∃ front c, name.toList = front ++ [c] ∧ Text.isBlank c = false := by
  obtain ⟨front, c, hChars⟩ := name.toList.eq_nil_or_concat.resolve_left h.toList_ne_nil
  rw [List.concat_eq_append] at hChars
  have hLast := Text.getLast?_trim name.toList
  rw [h.trimmed, hChars, List.getLast?_concat] at hLast
  exact ⟨front, c, hChars, hLast c rfl⟩

end Path.NeatKey

/-- Steps that are read back from their text. -/
def Segment.Neat : Segment → Prop
  | .key name => Path.NeatKey name
  | .index i => i < Path.indexLimit

/-- Steps that are read back from their text, and have no white space in it. -/
def Segment.Legible : Segment → Prop
  | .key name =>
    name.toList ≠ [] ∧ ∀ c ∈ name.toList, Text.isBlank c = false ∧ c ≠ '.' ∧ c ≠ '['
  | .index i => i < Path.indexLimit

theorem Segment.Legible.neat {segment : Segment} (h : segment.Legible) : segment.Neat := by
  cases segment with
  | key name =>
    refine ⟨fun he => h.1 (by rw [he]; rfl), ?_, ?_, ?_⟩
    · exact Text.trim_of_not_blank fun c hc => (h.2 c hc).1
    · exact fun hPoint => (h.2 _ hPoint).2.1 rfl
    · exact fun hBracket => (h.2 _ hBracket).2.2 rfl
  | index i => exact h

/-! ## Words -/

/-- Words stand in the text of a path as they are. -/
theorem Lexer.IsWord.legible {name : String} (h : Lexer.IsWord name) :
    (Segment.key name).Legible := by
  refine ⟨?_, fun c hc => ?_⟩
  · obtain ⟨c, rest, hChars, -⟩ := h.exists_cons
    rw [hChars]
    exact List.cons_ne_nil c rest
  · have hPart := h.isNamePart c hc
    refine ⟨?_, ?_, ?_⟩
    · cases hBlank : Text.isBlank c with
      | false => rfl
      | true =>
        rw [isNamePart_of_isBlank hBlank] at hPart
        cases hPart
    · rintro rfl
      cases hPart
    · rintro rfl
      cases hPart

theorem ReadSegment.legible {segment : Segment} (h : ReadSegment segment) : segment.Legible := by
  cases segment with
  | key name => exact Lexer.IsWord.legible h
  | index i =>
    obtain ⟨x, n, -, rfl⟩ := h
    have hLimit : 0 < Path.indexLimit := by decide +kernel
    change min n (Path.indexLimit - 1) < Path.indexLimit
    omega

namespace Path

/-! ## Digits -/

theorem digits_not_blank {i : Nat} : ∀ c ∈ Nat.toDigits 10 i, Text.isBlank c = false :=
  fun _ hc => (digit_starts (isDigit_of_mem_digits hc)).1

theorem digits_ne {i : Nat} {d : Char} (hd : d.isDigit = false) :
    ∀ c ∈ Nat.toDigits 10 i, c ≠ d := by
  rintro c hc rfl
  rw [isDigit_of_mem_digits hc] at hd
  cases hd

theorem index?_digits {i : Nat} (h : i < indexLimit) : index? (Nat.toDigits 10 i) = some i := by
  have hAll : (Nat.toDigits 10 i).all Char.isDigit = true :=
    List.all_eq_true.mpr fun _ hc => isDigit_of_mem_digits hc
  unfold index?
  rw [Text.trim_of_not_blank digits_not_blank]
  dsimp only
  rw [if_pos ⟨Nat.toDigits_ne_nil, hAll⟩, Nat.ofDigitChars_ten_toDigits, if_pos h]

/-- Inside of a bracket, everything up to the closing one belongs to the index. -/
theorem indices?_inside {inner rest : List Char} (h : ∀ c ∈ inner, c ≠ ']') (done : List Char) :
    indices? (some done) (inner ++ ']' :: rest) = (do
      let i ← index? (done.reverse ++ inner)
      let more ← indices? none rest
      some (.index i :: more)) := by
  induction inner generalizing done with
  | nil => rw [List.append_nil, List.nil_append, indices?, if_pos rfl]
  | cons c inner ih =>
    obtain ⟨hc, hInner⟩ := List.forall_mem_cons.mp h
    rw [List.cons_append, indices?, if_neg hc, ih hInner, List.reverse_cons, List.append_assoc,
      List.singleton_append]

theorem indices?_index {i : Nat} (h : i < indexLimit) (rest : List Char) :
    indices? none ((Segment.index i).text ++ rest)
      = (indices? none rest).map (.index i :: ·) := by
  have hText : (Segment.index i).text ++ rest = '[' :: (Nat.toDigits 10 i ++ ']' :: rest) := by
    simp [Segment.text]
  rw [hText, indices?, if_pos rfl, indices?_inside (digits_ne rfl), List.reverse_nil,
    List.nil_append, index?_digits h]
  cases indices? none rest <;> rfl

/-! ## Division at points -/

theorem fields_append {text rest field : List Char} {more : List (List Char)}
    (h : ∀ c ∈ text, c ≠ '.') (hRest : fields rest = field :: more) :
    fields (text ++ rest) = (text ++ field) :: more := by
  induction text with
  | nil => exact hRest
  | cons c text ih =>
    obtain ⟨hc, hText⟩ := List.forall_mem_cons.mp h
    rw [List.cons_append, fields, if_neg hc, ih hText, List.cons_append]

theorem field?_key {name : String} {field : List Char} {path : Path} (hName : NeatKey name)
    (hField : Ends (· != '[') field) (hPath : indices? none field = some path) :
    field? (name.toList ++ field) = some (.key name :: path) := by
  have hUndivided : ∀ c ∈ name.toList, (c != '[') = true := fun c hc =>
    bne_iff_ne.mpr fun he => hName.bracket (he ▸ hc)
  obtain ⟨hTake, hDrop⟩ := takeWhile_append_ends hUndivided hField
  unfold field?
  rw [hTake, hDrop, hName.trimmed]
  dsimp only
  rw [if_neg hName.toList_ne_nil, hPath, String.ofList_toList]
  rfl

/-- The text after a key: first the indices of this key, up to the next point, then further keys
with theirs. -/
theorem fields_joinRest {path : Path} (h : ∀ segment ∈ path, segment.Neat) :
    ∃ field more indices paths, fields (joinRest path) = field :: more ∧ Ends (· != '[') field ∧
      indices? none field = some indices ∧ more.mapM field? = some paths ∧
      path = indices ++ paths.flatten := by
  induction path with
  | nil => exact ⟨[], [], [], [], rfl, Ends.nil _, rfl, rfl, rfl⟩
  | cons segment rest ih =>
    obtain ⟨hSegment, hRest⟩ := List.forall_mem_cons.mp h
    obtain ⟨field, more, indices, paths, hFields, hEnds, hIndices, hMore, rfl⟩ := ih hRest
    -- A key starts a new part with the indices found so far; an index joins them.
    cases segment with
    | key name =>
      have hText : fields (name.toList ++ joinRest (indices ++ paths.flatten))
          = (name.toList ++ field) :: more :=
        fields_append (fun c hc he => hSegment.point (he ▸ hc)) hFields
      refine ⟨[], (name.toList ++ field) :: more, [], (.key name :: indices) :: paths, ?_,
        Ends.nil _, rfl, ?_, rfl⟩
      · rw [joinRest, List.cons_append, fields, if_pos rfl, hText]
      · rw [List.mapM_cons, field?_key hSegment hEnds hIndices, hMore]
        rfl
    | index i =>
      have hText : ∀ c ∈ (Segment.index i).text, c ≠ '.' := by
        intro c hc
        simp only [Segment.text, List.cons_append, List.mem_cons, List.mem_append,
          List.not_mem_nil, or_false] at hc
        rcases hc with rfl | hDigit | rfl
        · decide
        · exact digits_ne rfl c hDigit
        · decide
      refine ⟨(Segment.index i).text ++ field, more, .index i :: indices, paths, ?_, ?_, ?_, hMore,
        rfl⟩
      · rw [joinRest, fields_append hText hFields]
      · exact Ends.cons rfl _
      · rw [indices?_index hSegment, hIndices, Option.map_some]

theorem joinRest_append (path more : Path) :
    joinRest (path ++ more) = joinRest path ++ joinRest more := by
  induction path with
  | nil => rfl
  | cons segment rest ih =>
    cases segment <;> simp only [List.cons_append, joinRest, ih, List.append_assoc]

theorem join_append {path : Path} (h : path ≠ []) (more : Path) :
    join (path ++ more) = join path ++ joinRest more := by
  obtain ⟨first, rest, rfl⟩ := List.exists_cons_of_ne_nil h
  rw [List.cons_append, join, join, joinRest_append, List.append_assoc]

theorem joinRest_not_blank {path : Path} (h : ∀ segment ∈ path, segment.Legible) :
    ∀ c ∈ joinRest path, Text.isBlank c = false := by
  induction path with
  | nil => simp [joinRest]
  | cons segment rest ih =>
    obtain ⟨hSegment, hRest⟩ := List.forall_mem_cons.mp h
    cases segment with
    | key name =>
      simp only [joinRest, List.cons_append, List.forall_mem_cons, List.forall_mem_append]
      exact ⟨rfl, fun c hc => (hSegment.2 c hc).1, ih hRest⟩
    | index i =>
      simp only [joinRest, Segment.text, List.cons_append, List.forall_mem_cons,
        List.forall_mem_append]
      exact ⟨rfl, ⟨digits_not_blank, rfl, List.forall_mem_nil _⟩, ih hRest⟩

theorem join_not_blank {root : String} {path : Path} (hRoot : (Segment.key root).Legible)
    (hPath : ∀ segment ∈ path, segment.Legible) :
    ∀ c ∈ join (.key root :: path), Text.isBlank c = false :=
  List.forall_mem_append.mpr ⟨fun c hc => (hRoot.2 c hc).1, joinRest_not_blank hPath⟩

/-- A path does not end in white space if what stands in front of it does not. -/
theorem getLast?_append_joinRest {path : Path} (h : ∀ segment ∈ path, segment.Neat)
    {text : List Char} (hText : ∀ c ∈ text.getLast?, Text.isBlank c = false) :
    ∀ c ∈ (text ++ joinRest path).getLast?, Text.isBlank c = false := by
  induction path generalizing text with
  | nil => rwa [joinRest, List.append_nil]
  | cons segment rest ih =>
    obtain ⟨hSegment, hRest⟩ := List.forall_mem_cons.mp h
    have hStep (front : List Char) {c : Char} (hc : Text.isBlank c = false) :
        ∀ d ∈ (text ++ (front ++ [c])).getLast?, Text.isBlank d = false := by
      rw [← List.append_assoc, List.getLast?_concat]
      rintro d ⟨⟩
      exact hc
    cases segment with
    | key name =>
      obtain ⟨front, c, hChars, hc⟩ := NeatKey.exists_last hSegment
      rw [joinRest, hChars, ← List.cons_append, ← List.append_assoc]
      exact ih hRest (hStep ('.' :: front) hc)
    | index i =>
      rw [joinRest, ← List.append_assoc]
      exact ih hRest (hStep ('[' :: Nat.toDigits 10 i) rfl)

theorem trim_join {root : String} {path : Path} (hRoot : NeatKey root)
    (hPath : ∀ segment ∈ path, segment.Neat) :
    Text.trim (join (.key root :: path)) = join (.key root :: path) := by
  have hLast := Text.getLast?_trim root.toList
  rw [hRoot.trimmed] at hLast
  refine Text.trim_of_ends ?_ (getLast?_append_joinRest hPath hLast)
  obtain ⟨c, rest, hChars, hc⟩ := hRoot.exists_first
  rw [join, Segment.text, hChars]
  rintro d ⟨⟩
  exact hc

/-- The text of a path is read as the path. -/
theorem parse?_join_of_neat {root : String} {path : Path} (hRoot : NeatKey root)
    (hPath : ∀ segment ∈ path, segment.Neat) :
    parse? (String.ofList (join (.key root :: path))) = some (.key root :: path) := by
  obtain ⟨field, more, indices, paths, hFields, hEnds, hIndices, hMore, hSplit⟩ :=
    fields_joinRest hPath
  have hSome : join (.key root :: path) ≠ [] := fun hNil =>
    hRoot.toList_ne_nil (List.append_eq_nil_iff.mp hNil).1
  have hDivided : fields (join (.key root :: path)) = (root.toList ++ field) :: more :=
    fields_append (fun c hc he => hRoot.point (he ▸ hc)) hFields
  rw [parse?, String.toList_ofList, parseChars?, trim_join hRoot hPath, if_neg hSome, hDivided,
    List.mapM_cons, field?_key hRoot hEnds hIndices, hMore, hSplit]
  rfl

theorem parse?_join {root : String} {path : Path} (hRoot : (Segment.key root).Legible)
    (hPath : ∀ segment ∈ path, segment.Legible) :
    parse? (String.ofList (join (.key root :: path))) = some (.key root :: path) :=
  parse?_join_of_neat hRoot.neat fun segment hMem => (hPath segment hMem).neat

/-! ## Length -/

/-- Does a step after the first one start here? -/
def startsStep (c : Char) : Bool := c == '.' || c == '['

theorem countP_startsStep_key {name : String} (h : (Segment.key name).Legible) :
    name.toList.countP startsStep = 0 := by
  refine List.countP_eq_zero.mpr fun c hc => ?_
  simpa [startsStep] using (h.2 c hc).2

theorem countP_startsStep_index (i : Nat) : (Segment.index i).text.countP startsStep = 1 := by
  have hDigits : (Nat.toDigits 10 i).countP startsStep = 0 := by
    refine List.countP_eq_zero.mpr fun c hc => ?_
    simpa [startsStep] using ⟨digits_ne rfl c hc, digits_ne rfl c hc⟩
  simp [Segment.text, hDigits, startsStep]

theorem countP_joinRest {path : Path} (h : ∀ segment ∈ path, segment.Legible) :
    (joinRest path).countP startsStep = path.length := by
  induction path with
  | nil => rfl
  | cons segment rest ih =>
    obtain ⟨hSegment, hRest⟩ := List.forall_mem_cons.mp h
    cases segment with
    | key name =>
      rw [joinRest, List.cons_append, List.countP_cons_of_pos rfl, List.countP_append,
        countP_startsStep_key hSegment, ih hRest, Nat.zero_add, List.length_cons]
    | index i =>
      rw [joinRest, List.countP_append, countP_startsStep_index, ih hRest, Nat.add_comm,
        List.length_cons]

/-- The text of a path has one point or opening bracket for every step after the first. -/
theorem length_eq_countP {root : String} {path : Path} (hRoot : (Segment.key root).Legible)
    (hPath : ∀ segment ∈ path, segment.Legible) :
    (join (.key root :: path)).countP startsStep + 1 = (Segment.key root :: path).length := by
  rw [join, Segment.text, List.countP_append, countP_startsStep_key hRoot, countP_joinRest hPath,
    Nat.zero_add, List.length_cons]

end Path

end TextTemplate
