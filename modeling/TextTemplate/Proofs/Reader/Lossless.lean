import Mathlib.Data.List.Chain
import Mathlib.Data.List.Forall2
import TextTemplate.Proofs.Reader.Composition

/-!
# Nothing is lost when a template is read

The literal texts of a template and the sources of its placeholders make up the text again. The text
is cut in one way only: literal texts are as long as possible, and every opening mark that does not
stand inside of a placeholder opens one.

* `Cut.spelled`, `Cut.apart`, `Cut.marked`: the statements for the pieces of a text.
* `Part.ReadFrom`: which part is read from which piece.
* `parse_lossless`: the statement for templates.
-/

namespace TextTemplate

namespace Piece

/-- The text of a piece. What follows an opening mark without an end belongs to no piece. -/
def spelled : Piece → List Char
  | .text s => s
  | .placeholder _ source => '$' :: '{' :: (source ++ ['}'])
  | .unclosed _ => []

def isText : Piece → Bool
  | .text _ => true
  | _ => false

variable {position : Nat} {text : List Char} {ps : List Piece}

theorem Closed.of_cons {piece : Piece} (h : Closed (piece :: ps)) : Closed ps :=
  fun position hMem => h position (List.mem_cons_of_mem piece hMem)

/-- The pieces of a text make up the text. -/
theorem Cut.spelled (h : Cut position text ps) (hClosed : Closed ps) :
    ps.flatMap spelled = text := by
  induction h with
  | nil => rfl
  | text _ _ _ _ ih => rw [List.flatMap_cons, ih hClosed.of_cons, Piece.spelled]
  | placeholder hClosing _ ih =>
    rw [List.flatMap_cons, ih hClosed.of_cons, eq_of_closing? hClosing]
    simp [Piece.spelled]
  | unclosed => exact absurd List.mem_cons_self (hClosed _)

/-- Literal texts do not stand side by side. -/
theorem Cut.apart (h : Cut position text ps) :
    ps.IsChain fun piece next => ¬ (piece.isText ∧ next.isText) := by
  induction h with
  | nil => exact .nil
  | unclosed => exact .singleton _
  | placeholder _ hRest ih =>
    cases hRest with
    | nil => exact .singleton _
    | text | placeholder | unclosed => exact .cons_cons (by simp [isText]) ih
  | text _ _ hEnds hRest ih =>
    -- What follows literal text is the end or a placeholder.
    rcases hEnds with rfl | hOpens
    · rw [hRest.eq_nil]
      exact .singleton _
    · cases hRest with
      | nil => exact .singleton _
      | placeholder | unclosed => exact .cons_cons (by simp [isText]) ih
      | text hSome hLiteral hEnds =>
        exact absurd (.inr hOpens) (hLiteral.not_endsText hSome hEnds)

/-! ## Opening marks -/

/-- The opening mark behind a text opens a placeholder or stands inside of the source of one. -/
def Marked (position : Nat) (text : List Char) (ps : List Piece) (before : List Char) : Prop :=
  ∃ earlier source later, text = earlier ++ '$' :: '{' :: (source ++ '}' :: later) ∧
    .placeholder (position + Text.byteLength earlier + 2) source ∈ ps ∧
    (before = earlier ∨ ∃ inside more,
      source = inside ++ '$' :: '{' :: more ∧ before = earlier ++ '$' :: '{' :: inside)

theorem Marked.behind {before : List Char} (s : List Char) (piece : Piece)
    (h : Marked (position + Text.byteLength s) text ps before) :
    Marked position (s ++ text) (piece :: ps) (s ++ before) := by
  obtain ⟨earlier, source, later, rfl, hMem, hPlace⟩ := h
  refine ⟨s ++ earlier, source, later, (List.append_assoc _ _ _).symm, ?_, ?_⟩
  · rw [Text.byteLength_append, ← Nat.add_assoc]
    exact List.mem_cons_of_mem piece hMem
  · rcases hPlace with rfl | ⟨inside, more, hSource, rfl⟩
    · exact .inl rfl
    · exact .inr ⟨inside, more, hSource, (List.append_assoc _ _ _).symm⟩

theorem EndsText.apart {s rest : List Char} (h : EndsText rest) : Apart s rest := by
  rintro ⟨-, hHead⟩
  rcases h with rfl | hOpens
  · cases hHead
  · obtain ⟨more, rfl⟩ := eq_of_opens hOpens
    cases hHead

theorem mark_placeholder {source before after : List Char}
    (h : '$' :: '{' :: (source ++ ['}']) = before ++ '$' :: '{' :: after) :
    before = [] ∨ ∃ inside more,
      source = inside ++ '$' :: '{' :: more ∧ before = '$' :: '{' :: inside := by
  match before with
  | [] => exact .inl rfl
  | [c] => cases h
  | c :: d :: inside =>
    obtain ⟨rfl, hTail⟩ := List.cons.inj h
    obtain ⟨rfl, hSource⟩ := List.cons.inj hTail
    have hApart : Apart source ['}'] := fun hBoth => by cases hBoth.2
    rcases mark_append hSource hApart with ⟨more, rfl⟩ | ⟨middle, -, hBrace⟩
    · exact .inr ⟨inside, more, rfl, rfl⟩
    · cases middle <;> simp at hBrace

/-- Every opening mark opens a placeholder or stands inside of one. -/
theorem Cut.marked {before after : List Char} (h : Cut position text ps) (hClosed : Closed ps)
    (hMark : text = before ++ '$' :: '{' :: after) : Marked position text ps before := by
  induction h generalizing before with
  | nil => simp at hMark
  | @text position s rest ps _ hLiteral hEnds _ ih =>
    rcases mark_append hMark hEnds.apart with ⟨more, hs⟩ | ⟨middle, rfl, hRest⟩
    · exact absurd hs (hLiteral before more)
    · exact (ih hClosed.of_cons hRest).behind s (.text s)
  | @placeholder position rest source later ps hClosing _ ih =>
    obtain rfl := eq_of_closing? hClosing
    have hSplit : '$' :: '{' :: (source ++ '}' :: later)
        = ('$' :: '{' :: (source ++ ['}'])) ++ later := by simp
    have hApart : Apart ('$' :: '{' :: (source ++ ['}'])) later := by
      rintro ⟨hLast, -⟩
      have hBrace : (('$' :: '{' :: source) ++ ['}']).getLast? = some '}' := List.getLast?_concat
      cases hLast.symm.trans hBrace
    rw [hSplit] at hMark
    rcases mark_append hMark hApart with ⟨more, hInside⟩ | ⟨middle, rfl, hLater⟩
    · exact ⟨[], source, later, rfl, List.mem_cons_self, mark_placeholder hInside⟩
    · have hLength : Text.byteLength ('$' :: '{' :: (source ++ ['}']))
          = 2 + Text.byteLength source + 1 := byteLength_placeholder source []
      have hMarked := ih hClosed.of_cons hLater
      rw [Nat.add_assoc, Nat.add_assoc, ← Nat.add_assoc 2, ← hLength] at hMarked
      rw [hSplit]
      exact hMarked.behind _ _
  | unclosed => exact absurd List.mem_cons_self (hClosed _)

end Piece

/-! ## Parts -/

/-- What a part of a template is read from: literal text, or the source of a placeholder. -/
inductive Part.ReadFrom : Part → Piece → Prop
  | text {s : List Char} :
      s ≠ [] → Piece.Literal s → ReadFrom (.text (String.ofList s)) (.text s)
  | placeholder {p : Part} {start : Nat} {source : List Char} :
      p.isText = false → Part.parse source start = .ok p → ReadFrom p (.placeholder start source)

theorem Part.ReadFrom.isText {p : Part} {piece : Piece} (h : p.ReadFrom piece) :
    p.isText = piece.isText := by
  cases h with
  | text => rfl
  | placeholder hPart => exact hPart

theorem Piece.Cut.readFrom {template text : List Char} {position : Nat} {ps : List Piece}
    {parts : List Part} (hCut : Piece.Cut position text ps)
    (h : ps.mapM (Part.ofPiece template) = .ok parts) :
    List.Forall₂ Part.ReadFrom parts ps := by
  induction hCut generalizing parts with
  | nil =>
    cases h
    exact .nil
  | text hSome hLiteral _ _ ih =>
    obtain ⟨p, rest, hPart, hRest, rfl⟩ := mapM_cons_eq_ok.mp h
    cases hPart
    exact .cons (.text hSome hLiteral) (ih hRest)
  | placeholder _ _ ih =>
    obtain ⟨p, rest, hPart, hRest, rfl⟩ := mapM_cons_eq_ok.mp h
    exact .cons (.placeholder (Part.isText_of_parse hPart) hPart) (ih hRest)
  | unclosed =>
    obtain ⟨p, rest, hPart, -⟩ := mapM_cons_eq_ok.mp h
    cases hPart

theorem map_isText_eq {parts : List Part} {ps : List Piece}
    (h : List.Forall₂ Part.ReadFrom parts ps) : parts.map Part.isText = ps.map Piece.isText := by
  induction h with
  | nil => rfl
  | cons hPart _ ih => rw [List.map_cons, List.map_cons, hPart.isText, ih]

/-! ## Templates -/

namespace Template

/-- How the parts of a template that was read are laid out in its text. -/
structure Lossless (raw : String) (t : Template) : Prop where
  raw_eq : t.raw = raw
  empty : t.parts = [] ↔ raw = ""
  /-- Literal text is not empty and opens no placeholder; other parts are read from the sources of
  placeholders. -/
  parts : List.Forall₂ Part.ReadFrom t.parts (Piece.pieces raw.toList)
  apart : t.parts.IsChain fun p next => ¬ (p.isText ∧ next.isText)
  spelled : (Piece.pieces raw.toList).flatMap Piece.spelled = raw.toList
  /-- Every opening mark opens a placeholder or stands inside of one. -/
  marked (before after : List Char) : raw.toList = before ++ '$' :: '{' :: after →
    Piece.Marked 0 raw.toList (Piece.pieces raw.toList) before
  textOnly : t.isTextOnly = true ↔ Piece.Literal raw.toList
  /-- A template without placeholders is worth its text. -/
  evaluate (registry : Registry) (context : Fields) :
    t.isTextOnly = true → t.evaluate registry context = .ok (.text raw)

theorem parse_literal {raw : String} (h : Piece.Literal raw.toList) :
    parse raw = .ok (ofText raw) := by
  rw [parse_eq]
  by_cases hEmpty : raw = ""
  · subst hEmpty
    rfl
  · have hSome : raw.toList ≠ [] := by simpa using hEmpty
    have hCut : Piece.Cut 0 raw.toList [.text raw.toList] := by
      have hText := Piece.Cut.text hSome h (.inl rfl) (.nil (0 + Text.byteLength raw.toList))
      rwa [List.append_nil] at hText
    have hParts : (ofText raw).parts = [.text raw] := if_neg (by simpa using hEmpty)
    rw [Piece.pieces_of_cut hCut]
    change Except.ok (⟨raw, [.text (String.ofList raw.toList)]⟩ : Template) = _
    rw [String.ofList_toList, ← hParts]
    rfl

variable {raw : String} {t : Template}

theorem raw_of_parse (h : parse raw = .ok t) : t.raw = raw := by
  unfold parse at h
  split at h
  · cases h
    rfl
  · cases h

theorem readFrom_of_parse (h : parse raw = .ok t) :
    List.Forall₂ Part.ReadFrom t.parts (Piece.pieces raw.toList) :=
  (Piece.cut_pieces raw.toList).readFrom (parse_eq_ok h)

theorem apart_of_parse (h : parse raw = .ok t) :
    t.parts.IsChain fun p next => ¬ (p.isText ∧ next.isText) := by
  have hPieces := (Piece.cut_pieces raw.toList).apart
  have hTexts := map_isText_eq (readFrom_of_parse h)
  rw [← List.isChain_map Piece.isText (R := fun a b => ¬ (a = true ∧ b = true)), ← hTexts,
    List.isChain_map] at hPieces
  exact hPieces

theorem marked_of_parse (h : parse raw = .ok t) {before after : List Char}
    (hMark : raw.toList = before ++ '$' :: '{' :: after) :
    Piece.Marked 0 raw.toList (Piece.pieces raw.toList) before :=
  (Piece.cut_pieces raw.toList).marked (Part.closed_of_mapM (parse_eq_ok h)) hMark

theorem isTextOnly_ofText (raw : String) : (ofText raw).isTextOnly = true := by
  unfold isTextOnly ofText
  split <;> rfl

theorem isTextOnly_iff (h : parse raw = .ok t) :
    t.isTextOnly = true ↔ Piece.Literal raw.toList := by
  constructor
  · intro hText before after hMark
    obtain ⟨_, source, _, -, hMem, -⟩ := marked_of_parse h hMark
    -- The placeholder is among the pieces, but all parts are text.
    have hPiece := List.mem_map_of_mem (f := Piece.isText) hMem
    rw [← map_isText_eq (readFrom_of_parse h)] at hPiece
    obtain ⟨p, hPart, hNotText⟩ := List.mem_map.mp hPiece
    rw [List.all_eq_true.mp hText p hPart] at hNotText
    cases hNotText
  · intro hLiteral
    cases h.symm.trans (parse_literal hLiteral)
    exact isTextOnly_ofText raw

theorem evaluate_ofText (raw : String) (registry : Registry) (context : Fields) :
    (ofText raw).evaluate registry context = .ok (.text raw) := by
  unfold evaluate ofText
  by_cases hEmpty : raw = ""
  · subst hEmpty
    rfl
  · have hParts : raw.isEmpty = false := by simpa using hEmpty
    rw [hParts]
    rfl

theorem parts_eq_nil_iff (h : parse raw = .ok t) : t.parts = [] ↔ raw = "" := by
  have hParts := readFrom_of_parse h
  constructor
  · intro hNone
    have hSpelled := (Piece.cut_pieces raw.toList).spelled (Part.closed_of_mapM (parse_eq_ok h))
    rw [hNone] at hParts
    rw [List.forall₂_nil_left_iff.mp hParts] at hSpelled
    exact String.toList_eq_nil_iff.mp hSpelled.symm
  · rintro rfl
    cases h
    rfl

/-- A text without placeholders is read as it is; from every text that is read, nothing is lost. -/
theorem parse_lossless (raw : String) :
    (parse raw = .ok (ofText raw) ↔ Piece.Literal raw.toList)
      ∧ ∀ t, parse raw = .ok t → Lossless raw t := by
  refine ⟨⟨fun h => (isTextOnly_iff h).mp (isTextOnly_ofText raw), parse_literal⟩, fun t h => ?_⟩
  exact
    { raw_eq := raw_of_parse h
      empty := parts_eq_nil_iff h
      parts := readFrom_of_parse h
      apart := apart_of_parse h
      spelled := (Piece.cut_pieces raw.toList).spelled (Part.closed_of_mapM (parse_eq_ok h))
      marked := fun before after => marked_of_parse h
      textOnly := isTextOnly_iff h
      evaluate := fun registry context hText => by
        cases h.symm.trans (parse_literal ((isTextOnly_iff h).mp hText))
        exact evaluate_ofText raw registry context }

/-- Dollar signs in front of a placeholder with a brace in a string literal, and a second one right
behind it. -/
theorem parse_lossless_priced :
    let raw := "$$$\x7bf('\x7d$\x7b')\x7d$\x7bx\x7d"
    ∃ t, parse raw = .ok t ∧ Lossless raw t := by
  intro raw
  have hOk : (parse raw).isOk = true := by decide +kernel
  obtain ⟨t, h⟩ := exists_of_isOk hOk
  exact ⟨t, h, (parse_lossless raw).2 t h⟩

end Template

end TextTemplate
