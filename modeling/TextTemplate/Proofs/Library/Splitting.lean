import TextTemplate.Library.Texts

/-!
# Splitting, joining and replacing

Splitting and replacing scan a text for the same occurrences, from left to right and without
overlap: `scan_induction` is that scan as an induction, with one case for an occurrence at the start
of a text and one for a character that is passed over.

* `split_start`, `split_pass`, `replace_start`, `replace_pass`: what the scans do in each case.
* `intercalate_split`: joining the pieces with a text replaces the occurrences by it.
* `replace_self`: replacing a text by itself changes nothing.
* `not_infix_of_mem_split`: no occurrence is left in a piece.
* `split_join_replace`: the statement for the library functions.
-/

namespace TextTemplate.Text

variable {separator : List Char}

/-! ## The scans -/

theorem splitFrom_eq_drop (skip : Nat) (text : List Char) :
    splitFrom separator skip text = split separator (text.drop skip) := by
  induction text generalizing skip with
  | nil =>
    rw [List.drop_nil, split, splitFrom, splitFrom]
  | cons c rest ih =>
    cases skip with
    | zero => rfl
    | succ skip => rw [splitFrom, ih, List.drop_succ_cons]

theorem replaceFrom_eq_drop {replacement : List Char} (skip : Nat) (text : List Char) :
    replaceFrom separator replacement skip text
      = replace separator replacement (text.drop skip) := by
  induction text generalizing skip with
  | nil => rw [List.drop_nil, replace, replaceFrom, replaceFrom]
  | cons c rest ih =>
    cases skip with
    | zero => rfl
    | succ skip => rw [replaceFrom, ih, List.drop_succ_cons]

theorem drop_append_length {first : Char} {start : List Char} (text : List Char) :
    (start ++ text).drop ((first :: start).length - 1) = text := by
  rw [List.length_cons, Nat.add_sub_cancel, List.drop_left]

theorem split_start (h : separator ≠ []) (text : List Char) :
    split separator (separator ++ text) = [] :: split separator text := by
  obtain ⟨first, start, rfl⟩ := List.exists_cons_of_ne_nil h
  have hStarts : (first :: start).isPrefixOf (first :: (start ++ text)) = true :=
    List.isPrefixOf_iff_prefix.mpr (List.prefix_append _ _)
  rw [List.cons_append, split, splitFrom, if_pos hStarts, splitFrom_eq_drop, drop_append_length]

theorem replace_start {replacement : List Char} (h : separator ≠ []) (text : List Char) :
    replace separator replacement (separator ++ text)
      = replacement ++ replace separator replacement text := by
  obtain ⟨first, start, rfl⟩ := List.exists_cons_of_ne_nil h
  have hStarts : (first :: start).isPrefixOf (first :: (start ++ text)) = true :=
    List.isPrefixOf_iff_prefix.mpr (List.prefix_append _ _)
  rw [List.cons_append, replace, replaceFrom, if_pos hStarts, replaceFrom_eq_drop,
    drop_append_length]

/-- There is always a first piece. -/
theorem exists_split (separator text : List Char) :
    ∃ piece more, split separator text = piece :: more := by
  cases text with
  | nil => exact ⟨[], [], rfl⟩
  | cons c rest =>
    rw [split, splitFrom]
    split
    · exact ⟨_, _, rfl⟩
    · split
      · exact ⟨_, _, rfl⟩
      · exact ⟨_, _, rfl⟩

theorem split_pass {c : Char} {rest piece : List Char} {more : List (List Char)}
    (h : ¬ separator <+: c :: rest) (hRest : split separator rest = piece :: more) :
    split separator (c :: rest) = (c :: piece) :: more := by
  rw [split] at hRest
  rw [split, splitFrom, if_neg (mt List.isPrefixOf_iff_prefix.mp h), hRest]

theorem replace_pass {replacement : List Char} {c : Char} {rest : List Char}
    (h : ¬ separator <+: c :: rest) :
    replace separator replacement (c :: rest) = c :: replace separator replacement rest := by
  rw [replace, replaceFrom, if_neg (mt List.isPrefixOf_iff_prefix.mp h), replace]

/-- The scan for occurrences of a text that is not empty. -/
theorem scan_induction (h : separator ≠ []) {P : List Char → Prop} (nil : P [])
    (start : ∀ text, P text → P (separator ++ text))
    (pass : ∀ c rest, ¬ separator <+: c :: rest → P rest → P (c :: rest)) (text : List Char) :
    P text := by
  generalize hLength : text.length = length
  induction length using Nat.strongRecOn generalizing text with
  | ind length ih =>
    by_cases hStarts : separator <+: text
    · obtain ⟨rest, rfl⟩ := hStarts
      have hPos := List.length_pos_iff.mpr h
      rw [List.length_append] at hLength
      exact start rest (ih rest.length (by omega) rest rfl)
    · cases text with
      | nil => exact nil
      | cons c rest =>
        rw [List.length_cons] at hLength
        exact pass c rest hStarts (ih rest.length (by omega) rest rfl)

/-! ## The laws -/

theorem intercalate_cons_first {replacement : List Char} (c : Char) (piece : List Char)
    (more : List (List Char)) :
    replacement.intercalate ((c :: piece) :: more)
      = c :: replacement.intercalate (piece :: more) := by
  cases more with
  | nil => simp only [List.intercalate_singleton]
  | cons next more => simp only [List.intercalate_cons_cons, List.cons_append]

/-- Joined with another text, the pieces give the text with that one in place of the separator. -/
theorem intercalate_split (h : separator ≠ []) (replacement text : List Char) :
    replacement.intercalate (split separator text) = replace separator replacement text := by
  induction text using scan_induction h with
  | nil => rfl
  | start text ih =>
    obtain ⟨piece, more, hSplit⟩ := exists_split separator text
    rw [split_start h, replace_start h, ← ih, hSplit, List.intercalate_cons_cons, List.nil_append]
  | pass c rest hNot ih =>
    obtain ⟨piece, more, hSplit⟩ := exists_split separator rest
    rw [split_pass hNot hSplit, replace_pass hNot, ← ih, hSplit, intercalate_cons_first]

theorem replace_self (h : separator ≠ []) (text : List Char) :
    replace separator separator text = text := by
  induction text using scan_induction h with
  | nil => rfl
  | start text ih => rw [replace_start h, ih]
  | pass c rest hNot ih => rw [replace_pass hNot, ih]

theorem prefix_of_split {piece text : List Char} {more : List (List Char)} (h : separator ≠ [])
    (hSplit : split separator text = piece :: more) : piece <+: text := by
  induction text using scan_induction h generalizing piece more with
  | nil =>
    cases hSplit
    exact List.prefix_rfl
  | start text ih =>
    rw [split_start h] at hSplit
    cases hSplit
    exact List.nil_prefix
  | pass c rest hNot ih =>
    obtain ⟨first, others, hRest⟩ := exists_split separator rest
    rw [split_pass hNot hRest] at hSplit
    cases hSplit
    exact (List.prefix_cons_inj c).mpr (ih hRest)

/-- An occurrence in a piece would have been found at its place. -/
theorem not_infix_of_mem_split (h : separator ≠ []) {piece text : List Char}
    (hMem : piece ∈ split separator text) : ¬ separator <:+: piece := by
  induction text using scan_induction h generalizing piece with
  | nil =>
    obtain rfl := List.mem_singleton.mp hMem
    exact mt List.infix_nil.mp h
  | start text ih =>
    rw [split_start h] at hMem
    rcases List.mem_cons.mp hMem with rfl | hMem
    · exact mt List.infix_nil.mp h
    · exact ih hMem
  | pass c rest hNot ih =>
    obtain ⟨first, more, hSplit⟩ := exists_split separator rest
    rw [split_pass hNot hSplit] at hMem
    rw [hSplit] at ih
    rcases List.mem_cons.mp hMem with rfl | hMem
    · rw [List.infix_cons_iff, not_or]
      refine ⟨fun hStarts => hNot ?_, ih List.mem_cons_self⟩
      exact hStarts.trans ((List.prefix_cons_inj c).mpr (prefix_of_split h hSplit))
    · exact ih (List.mem_cons_of_mem _ hMem)

theorem intercalate_characters (text : List Char) :
    ([] : List Char).intercalate (text.map ([·])) = text := by
  induction text with
  | nil => rfl
  | cons c rest ih =>
    cases rest with
    | nil => rfl
    | cons d rest =>
      rw [List.map_cons] at ih
      rw [List.map_cons, List.map_cons, List.intercalate_cons_cons, ih]
      rfl

end TextTemplate.Text

namespace TextTemplate.Library

/-! ## The statement -/

/-- The pieces of a text; an empty separator stands between any two characters. -/
def pieces (separator text : List Char) : List (List Char) :=
  if separator.isEmpty then text.map ([·]) else Text.split separator text

theorem split_eq (s separator : String) : split [.text s, .text separator]
    = .ok (.list ((pieces separator.toList s.toList).map textValue)) := rfl

theorem join_eq (pieces : List (List Char)) (separator : String) :
    join [.list (pieces.map textValue), .text separator]
      = .ok (textValue (separator.toList.intercalate pieces)) := by
  have hRender : (pieces.map textValue).map Value.render = pieces := by
    rw [List.map_map]
    exact List.map_id'' render_textValue pieces
  change Except.ok (textValue (separator.toList.intercalate _)) = _
  rw [hRender]

theorem intercalate_pieces (separator text : List Char) :
    separator.intercalate (pieces separator text) = text := by
  unfold pieces
  split
  · rename_i hEmpty
    rw [List.isEmpty_iff.mp hEmpty]
    exact Text.intercalate_characters text
  · rename_i hSeparator
    have hNe : separator ≠ [] := mt List.isEmpty_iff.mpr hSeparator
    rw [Text.intercalate_split hNe, Text.replace_self hNe]

theorem pieces_of_ne_nil {separator : List Char} (h : separator ≠ []) (text : List Char) :
    pieces separator text = Text.split separator text :=
  if_neg (mt List.isEmpty_iff.mp h)

theorem replace_eq {search : String} (h : search.toList ≠ []) (s replacement : String) :
    replace [.text s, .text search, .text replacement]
      = .ok (textValue (Text.replace search.toList replacement.toList s.toList)) := by
  have hNot : ¬ (Value.text search).render.isEmpty = true := mt List.isEmpty_iff.mp h
  change Except.ok (textValue (if (Value.text search).render.isEmpty = true then _ else _)) = _
  rw [if_neg hNot]
  rfl

/-- What splitting takes apart, joining with the separator puts together, and joining with another
text replaces every occurrence of the separator. The pieces hold none; those of the empty separator
are the characters. -/
theorem split_join_replace (s separator : String) :
    ∃ items, split [.text s, .text separator] = .ok (.list (items.map textValue)) ∧
      join [.list (items.map textValue), .text separator] = .ok (.text s) ∧
      (separator = "" → items = s.toList.map ([·])) ∧
      (separator ≠ "" →
        (∀ piece ∈ items, ¬ separator.toList <:+: piece) ∧
        ∀ replacement : String, ∃ replaced,
          replace [.text s, .text separator, .text replacement] = .ok replaced ∧
          join [.list (items.map textValue), .text replacement] = .ok replaced) := by
  refine ⟨pieces separator.toList s.toList, split_eq s separator, ?_, ?_, fun hSeparator => ?_⟩
  · rw [join_eq, intercalate_pieces, textValue, String.ofList_toList]
  · rintro rfl
    rfl
  · have hNe : separator.toList ≠ [] := mt String.toList_eq_nil_iff.mp hSeparator
    rw [pieces_of_ne_nil hNe]
    refine ⟨fun piece hMem => Text.not_infix_of_mem_split hNe hMem, fun replacement => ?_⟩
    refine ⟨_, replace_eq hNe s replacement, ?_⟩
    rw [join_eq, Text.intercalate_split hNe]

/-- A separator that overlaps itself, at both ends of the text. -/
theorem split_join_replace_overlapping :
    split [.text "aaxaaay", .text "aa"] = .ok (.list [.text "", .text "x", .text "ay"]) ∧
      "aa" ≠ "" ∧
      join [.list [.text "", .text "x", .text "ay"], .text "aa"] = .ok (.text "aaxaaay") ∧
      ∃ replaced, replace [.text "aaxaaay", .text "aa", .text "-"] = .ok replaced ∧
        join [.list [.text "", .text "x", .text "ay"], .text "-"] = .ok replaced := by
  obtain ⟨items, hSplit, hJoin, -, hPieces⟩ := split_join_replace "aaxaaay" "aa"
  have hList : split [.text "aaxaaay", .text "aa"]
      = .ok (.list [.text "", .text "x", .text "ay"]) := rfl
  have hItems : items.map textValue = [.text "", .text "x", .text "ay"] :=
    Value.list.inj (Except.ok.inj (hSplit.symm.trans hList))
  rw [hItems] at hSplit hJoin hPieces
  exact ⟨hSplit, by decide, hJoin, (hPieces (by decide)).2 "-"⟩

end TextTemplate.Library
