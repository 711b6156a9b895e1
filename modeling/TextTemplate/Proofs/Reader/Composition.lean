import TextTemplate.Proofs.Evaluation.Steps
import TextTemplate.Proofs.Parser.Soundness
import TextTemplate.Proofs.Reader.Pieces

/-!
# Templates put together

A template that was read may be followed by any text, provided that no placeholder opens across the
seam. The text is cut and read as it would be by itself, only further on, and literal texts that
meet at the seam become one.

* `Cut.append`: the pieces of two texts put together.
* `read_append`: the parts of two texts put together, or the error of the second one, moved.
* `renderAll_join`: the rendering of parts put together.
* `parse_append`: the statement for templates.
-/

namespace TextTemplate

/-- No placeholder opens where the second text follows the first one. -/
def Apart (a b : List Char) : Prop := ¬ (a.getLast? = some '$' ∧ b.head? = some '{')

theorem Apart.of_append {s a b : List Char} (h : Apart (s ++ a) b) : Apart a b := by
  rintro ⟨hLast, hHead⟩
  refine h ⟨?_, hHead⟩
  rw [List.getLast?_append, hLast]
  rfl

/-! ## Pieces -/

namespace Piece

/-- The same piece further on. -/
def shift (k : Nat) : Piece → Piece
  | .text s => .text s
  | .placeholder position source => .placeholder (k + position) source
  | .unclosed position => .unclosed (k + position)

/-- Puts literal text in front; it becomes one with literal text that is there. -/
def withText (s : List Char) : List Piece → List Piece
  | .text s' :: rest => .text (s ++ s') :: rest
  | rest => .text s :: rest

/-- Pieces one after another. Literal texts that meet become one. -/
def join : List Piece → List Piece → List Piece
  | [], others => others
  | [.text s], others => withText s others
  | piece :: rest, others => piece :: join rest others

theorem join_cons (piece : Piece) {rest : List Piece} (others : List Piece) (h : rest ≠ []) :
    join (piece :: rest) others = piece :: join rest others := by
  cases rest with
  | nil => exact absurd rfl h
  | cons next rest => cases piece <;> rfl

theorem Cut.shift {position : Nat} {text : List Char} {ps : List Piece} (k : Nat)
    (h : Cut position text ps) : Cut (k + position) text (ps.map (shift k)) := by
  induction h with
  | nil => exact .nil _
  | text hSome hLiteral hEnds _ ih =>
    rw [← Nat.add_assoc] at ih
    exact .text hSome hLiteral hEnds ih
  | placeholder hClosing _ ih =>
    simp only [← Nat.add_assoc] at ih
    exact .placeholder hClosing ih
  | unclosed hClosing => exact .unclosed hClosing

theorem Cut.eq_nil {position : Nat} {ps : List Piece} (h : Cut position [] ps) : ps = [] :=
  (piecesFrom_of_cut h (Nat.le_refl _)).symm

theorem Cut.ne_nil {position : Nat} {text : List Char} {ps : List Piece} (h : Cut position text ps)
    (hSome : text ≠ []) : ps ≠ [] := by
  cases h with
  | nil => exact absurd rfl hSome
  | text => simp
  | placeholder => simp
  | unclosed => simp

/-- The end of a placeholder does not depend on what follows it. -/
theorem closing?_append {depth : Nat} {quote : Option Char} {text source after : List Char}
    (b : List Char) (h : closing? depth quote text = some (source, after)) :
    closing? depth quote (text ++ b) = some (source, after ++ b) := by
  fun_induction closing? depth quote text generalizing source with
  | case1 | case2 => cases h
  | case5 =>
    rename_i hEnd
    cases h
    rw [List.cons_append, closing?, if_pos hEnd]
  | case3 =>
    rename_i ih
    obtain ⟨⟨inner, after'⟩, hInner, hEq⟩ := Option.map_eq_some_iff.mp h
    cases hEq
    rw [List.cons_append, List.cons_append, closing?_escape, ih hInner]
    rfl
  | case4 =>
    rename_i hKept next ih
    obtain ⟨⟨inner, after'⟩, hInner, hEq⟩ := Option.map_eq_some_iff.mp h
    cases hEq
    rw [List.cons_append, closing?_quoted hKept, ih hInner]
    rfl
  | case6 =>
    rename_i hOpen quote depth ih
    obtain ⟨⟨inner, after'⟩, hInner, hEq⟩ := Option.map_eq_some_iff.mp h
    cases hEq
    rw [List.cons_append, closing?, if_neg hOpen]
    dsimp only
    rw [ih hInner]
    rfl

/-- An opening mark stands in the first part of a text or in the second one, if none opens across
the seam. -/
theorem mark_append {a b before after : List Char} (h : a ++ b = before ++ '$' :: '{' :: after)
    (hApart : Apart a b) : (∃ more, a = before ++ '$' :: '{' :: more) ∨
      ∃ middle, before = a ++ middle ∧ b = middle ++ '$' :: '{' :: after := by
  rcases List.append_eq_append_iff.mp h with ⟨middle, hBefore, hb⟩ | ⟨middle, ha, hMiddle⟩
  · exact .inr ⟨middle, hBefore, hb⟩
  · match middle with
    | [] => exact .inr ⟨[], by simpa using ha.symm, hMiddle.symm⟩
    | [c] =>
      obtain ⟨rfl, rfl⟩ := List.cons.inj hMiddle
      exact absurd ⟨by simp [ha], rfl⟩ hApart
    | c :: d :: more =>
      obtain ⟨rfl, hTail⟩ := List.cons.inj hMiddle
      obtain ⟨rfl, -⟩ := List.cons.inj hTail
      exact .inl ⟨more, ha⟩

theorem Literal.append {s s' : List Char} (h : Literal s) (h' : Literal s') (hApart : Apart s s') :
    Literal (s ++ s') := by
  intro before after hEq
  rcases mark_append hEq hApart with ⟨more, hs⟩ | ⟨middle, -, hs'⟩
  · exact h before more hs
  · exact h' middle after hs'

/-- Literal text in front of any text. -/
theorem Cut.withText {position : Nat} {s text : List Char} {ps : List Piece} (hSome : s ≠ [])
    (hLiteral : Literal s) (hApart : Apart s text)
    (h : Cut (position + Text.byteLength s) text ps) :
    Cut position (s ++ text) (withText s ps) := by
  cases h with
  | @text _ s' rest ps hSome' hLiteral' hEnds hRest =>
    have hJoined : s ++ s' ≠ [] := fun hNil => hSome (List.append_eq_nil_iff.mp hNil).1
    have hBetween : Apart s s' := by
      rintro ⟨hLast, hHead⟩
      refine hApart ⟨hLast, ?_⟩
      rw [List.head?_append, hHead]
      rfl
    rw [Nat.add_assoc, ← Text.byteLength_append] at hRest
    rw [← List.append_assoc]
    exact .text hJoined (hLiteral.append hLiteral' hBetween) hEnds hRest
  | nil => exact .text hSome hLiteral (.inl rfl) (.nil _)
  | placeholder hClosing hRest =>
    exact .text hSome hLiteral (.inr rfl) (.placeholder hClosing hRest)
  | unclosed hClosing => exact .text hSome hLiteral (.inr rfl) (.unclosed hClosing)

/-- Every placeholder has its end. -/
def Closed (ps : List Piece) : Prop := ∀ position, .unclosed position ∉ ps

theorem byteLength_placeholder (source after : List Char) :
    Text.byteLength ('$' :: '{' :: (source ++ '}' :: after))
      = 2 + Text.byteLength source + 1 + Text.byteLength after := by
  have hDollar : '$'.utf8Size = 1 := rfl
  have hOpening : '{'.utf8Size = 1 := rfl
  have hEnd : '}'.utf8Size = 1 := rfl
  simp only [Text.byteLength, Text.byteLength_append]
  omega

/-- The pieces of two texts put together. -/
theorem Cut.append {position : Nat} {a b : List Char} {ps qs : List Piece}
    (h : Cut position a ps) (hClosed : Closed ps) (hApart : Apart a b)
    (hb : Cut (position + Text.byteLength a) b qs) : Cut position (a ++ b) (join ps qs) := by
  induction h with
  | nil => exact hb
  | @text position s rest ps hSome hLiteral hEnds hRest ih =>
    have hClosedRest : Closed ps := fun k hMem => hClosed k (List.mem_cons_of_mem _ hMem)
    rcases hEnds with rfl | hOpens
    · -- The text ends at the seam, and may go on behind it.
      obtain rfl := hRest.eq_nil
      rw [List.append_nil] at hApart hb ⊢
      exact hb.withText hSome hLiteral hApart
    · obtain ⟨more, rfl⟩ := eq_of_opens hOpens
      rw [join_cons _ _ (hRest.ne_nil (by simp)), List.append_assoc]
      rw [Text.byteLength_append, ← Nat.add_assoc] at hb
      exact .text hSome hLiteral (.inr rfl) (ih hClosedRest hApart.of_append hb)
  | @placeholder position rest source after ps hClosing hRest ih =>
    have hClosedRest : Closed ps := fun k hMem => hClosed k (List.mem_cons_of_mem _ hMem)
    have hSplit : '$' :: '{' :: rest = ('$' :: '{' :: source ++ ['}']) ++ after := by
      rw [eq_of_closing? hClosing]
      simp
    have hLength : position + Text.byteLength ('$' :: '{' :: rest)
        = position + 2 + Text.byteLength source + 1 + Text.byteLength after := by
      rw [eq_of_closing? hClosing, byteLength_placeholder]
      omega
    rw [hSplit] at hApart
    rw [hLength] at hb
    exact .placeholder (closing?_append b hClosing) (ih hClosedRest hApart.of_append hb)
  | unclosed => exact absurd List.mem_cons_self (hClosed _)

/-- The pieces of two texts put together, those of the second one further on. -/
theorem pieces_append {a b : List Char} (hClosed : Closed (pieces a)) (hApart : Apart a b) :
    pieces (a ++ b) = join (pieces a) ((pieces b).map (shift (Text.byteLength a))) := by
  have hb := (cut_pieces b).shift (Text.byteLength a)
  refine pieces_of_cut ((cut_pieces a).append hClosed hApart ?_)
  rwa [Nat.zero_add]

end Piece

/-! ## Parts -/

/-- The phrase is not literal text. -/
def Phrase.NotText : Phrase → Prop
  | .ternary p | .coalesce p | .comparison p | .operand p => p.isText = false
  | .arguments _ => True

/-- The same error further on. -/
def SyntaxError.shift (k : Nat) (e : SyntaxError) : SyntaxError :=
  { e with position := k + e.position }

namespace Part

/-- Puts literal text in front; it becomes one with literal text that is there. -/
def withText (s : String) : List Part → List Part
  | .text s' :: rest => .text (s ++ s') :: rest
  | rest => .text s :: rest

/-- Parts one after another. Literal texts that meet become one. -/
def join : List Part → List Part → List Part
  | [], others => others
  | [.text s], others => withText s others
  | part :: rest, others => part :: join rest others

theorem join_cons (part : Part) {rest : List Part} (others : List Part) (h : rest ≠ []) :
    join (part :: rest) others = part :: join rest others := by
  cases rest with
  | nil => exact absurd rfl h
  | cons next rest => cases part <;> rfl

theorem join_cons_of_not_text {part : Part} (rest others : List Part) (h : part.isText = false) :
    join (part :: rest) others = part :: join rest others := by
  cases part with
  | text s => cases h
  | _ => rfl

theorem parse_shift (source : List Char) (k base : Nat) :
    parse source (k + base) = (parse source base).mapError (SyntaxError.shift k) := by
  unfold parse
  split
  · rfl
  · dsimp only
    split
    · rfl
    · rename_i f _
      have hMoved : f.toError source (k + base) = (f.toError source base).shift k := by
        simp only [SyntaxError.shift, LocatedFault.toError, Nat.add_assoc]
      exact congrArg Except.error hMoved

/-- The second of two texts is read as by itself, only further on. -/
theorem ofPiece_shift (a b : List Char) (piece : Piece) :
    ofPiece (a ++ b) (piece.shift (Text.byteLength a))
      = (ofPiece b piece).mapError (SyntaxError.shift (Text.byteLength a)) := by
  cases piece with
  | text s => rfl
  | placeholder position source => exact parse_shift source _ position
  | unclosed position =>
    have hExcerpt := Text.excerpt_append a b position
    rw [Piece.shift, ofPiece, hExcerpt]
    rfl

theorem mapM_shift (a b : List Char) (ps : List Piece) :
    (ps.map (Piece.shift (Text.byteLength a))).mapM (ofPiece (a ++ b))
      = (ps.mapM (ofPiece b)).mapError (SyntaxError.shift (Text.byteLength a)) := by
  induction ps with
  | nil => rfl
  | cons piece ps ih =>
    rw [List.map_cons, List.mapM_cons, List.mapM_cons, ofPiece_shift, ih]
    cases ofPiece b piece with
    | error e => rfl
    | ok part => cases ps.mapM (ofPiece b) <;> rfl

/-- What is read from an expression is not literal text. -/
theorem isText_of_derives {garbled : List Token → Prop} {ts : List Token} {φ : Phrase}
    (h : Grammar.Derives garbled ts φ) : φ.NotText := by
  induction h with
  | unconditional _ ih | single _ ih | uncompared _ ih | parentheses _ ih => exact ih
  | lastArgument | moreArguments => trivial
  | _ => rfl

theorem isText_of_parse {source : List Char} {base : Nat} {part : Part}
    (h : parse source base = .ok part) : part.isText = false := by
  obtain ⟨_, _, -, -, hDerives⟩ := exists_lexemes_of_parse h
  exact isText_of_derives hDerives

variable {t : List Char} {ps : List Piece} {parts : List Part}

theorem closed_of_mapM (h : ps.mapM (ofPiece t) = .ok parts) : Piece.Closed ps := by
  induction ps generalizing parts with
  | nil => simp [Piece.Closed]
  | cons piece ps ih =>
    obtain ⟨part, rest, hPart, hRest, rfl⟩ := mapM_cons_eq_ok.mp h
    intro position hMem
    rcases List.mem_cons.mp hMem with rfl | hMem
    · cases hPart
    · exact ih hRest position hMem

/-- The whole template counts only where it has an error. -/
theorem mapM_congr (t' : List Char) (h : ps.mapM (ofPiece t) = .ok parts) :
    ps.mapM (ofPiece t') = .ok parts := by
  induction ps generalizing parts with
  | nil => exact h
  | cons piece ps ih =>
    obtain ⟨part, rest, hPart, hRest, rfl⟩ := mapM_cons_eq_ok.mp h
    refine mapM_cons_eq_ok.mpr ⟨part, rest, ?_, ih hRest, rfl⟩
    cases piece with
    | unclosed => cases hPart
    | _ => exact hPart

theorem mapM_withText (t s : List Char) (qs : List Piece) :
    (Piece.withText s qs).mapM (ofPiece t)
      = (qs.mapM (ofPiece t)).map (withText (String.ofList s)) := by
  cases qs with
  | nil => rfl
  | cons piece qs =>
    cases piece with
    | text s' =>
      rw [Piece.withText, List.mapM_cons, List.mapM_cons]
      cases qs.mapM (ofPiece t) with
      | error e => rfl
      | ok rest =>
        have hText : String.ofList (s ++ s') = String.ofList s ++ String.ofList s' :=
          String.ofList_append
        change Except.ok (.text (String.ofList (s ++ s')) :: rest) = _
        rw [hText]
        rfl
    | placeholder position source =>
      change (.text s :: .placeholder position source :: qs : List Piece).mapM _ = _
      rw [List.mapM_cons, List.mapM_cons]
      cases hPart : ofPiece t (.placeholder position source) with
      | error e => rfl
      | ok part =>
        have hNotText : part.isText = false := isText_of_parse hPart
        cases qs.mapM (ofPiece t) with
        | error e => rfl
        | ok rest => cases part <;> first | rfl | cases hNotText
    | unclosed position => rfl

theorem mapM_join (h : ps.mapM (ofPiece t) = .ok parts) (qs : List Piece) :
    (Piece.join ps qs).mapM (ofPiece t) = (qs.mapM (ofPiece t)).map (join parts) := by
  induction ps generalizing parts with
  | nil =>
    cases h
    change qs.mapM (ofPiece t) = _
    cases qs.mapM (ofPiece t) <;> rfl
  | cons piece ps ih =>
    obtain ⟨part, rest, hPart, hRest, rfl⟩ := mapM_cons_eq_ok.mp h
    have hMore := ih hRest
    cases ps with
    | nil =>
      cases hRest
      cases piece with
      | text s =>
        cases hPart
        exact mapM_withText t s qs
      | placeholder position source =>
        have hNotText : part.isText = false := isText_of_parse hPart
        change (.placeholder position source :: qs : List Piece).mapM _ = _
        rw [List.mapM_cons, hPart]
        cases qs.mapM (ofPiece t) with
        | error e => rfl
        | ok others =>
          change Except.ok (part :: others) = Except.ok (join [part] others)
          rw [join_cons_of_not_text _ _ hNotText]
          rfl
      | unclosed => cases hPart
    | cons next ps =>
      have hSome : rest ≠ [] := by
        obtain ⟨part', rest', -, -, rfl⟩ := mapM_cons_eq_ok.mp hRest
        simp
      rw [Piece.join_cons _ _ (by simp), List.mapM_cons, hPart, hMore]
      cases qs.mapM (ofPiece t) with
      | error e => rfl
      | ok others =>
        change Except.ok (part :: join rest others) = Except.ok (join (part :: rest) others)
        rw [join_cons _ _ hSome]

/-- What is read from two texts put together. -/
theorem read_append {a b : List Char} (h : (Piece.pieces a).mapM (ofPiece a) = .ok parts)
    (hApart : Apart a b) : (Piece.pieces (a ++ b)).mapM (ofPiece (a ++ b))
      = (((Piece.pieces b).mapM (ofPiece b)).mapError
        (SyntaxError.shift (Text.byteLength a))).map (join parts) := by
  rw [Piece.pieces_append (closed_of_mapM h) hApart, mapM_join (mapM_congr (a ++ b) h), mapM_shift]

/-! ## Rendering -/

section Rendering

variable (registry : Registry) (s : Scope)

theorem renderAll_withText (text : String) (parts : List Part) :
    renderAll registry s (withText text parts) = (do
      let y ← renderAll registry s parts
      .ok (text.toList ++ y)) := by
  have hFront (parts : List Part) : renderAll registry s (.text text :: parts) = (do
      let y ← renderAll registry s parts
      .ok (text.toList ++ y)) := renderAll_cons registry s (.text text) parts
  cases parts with
  | nil => exact hFront []
  | cons part rest =>
    cases part with
    | text text' =>
      rw [withText, renderAll_cons, renderAll_cons]
      change (do
          let y ← renderAll registry s rest
          .ok ((text ++ text').toList ++ y)) = _
      rw [String.toList_append]
      cases renderAll registry s rest with
      | error f => rfl
      | ok y => exact congrArg Except.ok (List.append_assoc _ _ y)
    | _ => exact hFront _

/-- Parts that are put together are rendered one after another, up to the first fault. -/
theorem renderAll_join (parts others : List Part) :
    renderAll registry s (join parts others) = (do
      let x ← renderAll registry s parts
      let y ← renderAll registry s others
      .ok (x ++ y)) := by
  induction parts with
  | nil =>
    change renderAll registry s others = _
    rw [renderAll_nil]
    cases renderAll registry s others <;> rfl
  | cons part rest ih =>
    have hStep : renderAll registry s (part :: join rest others) = (do
        let x ← renderAll registry s (part :: rest)
        let y ← renderAll registry s others
        .ok (x ++ y)) := by
      rw [renderAll_cons, renderAll_cons, ih]
      cases part.evaluate registry s with
      | error f => rfl
      | ok v =>
        cases renderAll registry s rest with
        | error f => rfl
        | ok x =>
          cases renderAll registry s others with
          | error f => rfl
          | ok y => exact congrArg Except.ok (List.append_assoc _ x y).symm
    cases rest with
    | nil =>
      cases part with
      | text text =>
        change renderAll registry s (withText text others) = _
        rw [renderAll_withText, renderAll_cons, renderAll_nil]
        change _ = (do
          let y ← renderAll registry s others
          .ok (text.toList ++ [] ++ y))
        rw [List.append_nil]
      | _ => exact hStep
    | cons next rest =>
      rw [join_cons _ _ (by simp)]
      exact hStep

end Rendering

end Part

/-! ## Templates -/

namespace Template

/-- A template that is followed by a text is read as far as the text is. -/
theorem parse_seam {a b : String} {t : Template} (h : parse a = .ok t)
    (hApart : Apart a.toList b.toList) :
    parse (a ++ b) = match parse b with
      | .ok u => .ok ⟨a ++ b, Part.join t.parts u.parts⟩
      | .error e => .error (e.shift (Text.byteLength a.toList)) := by
  rw [parse_eq, parse_eq, String.toList_append, Part.read_append (parse_eq_ok h) hApart]
  cases (Piece.pieces b.toList).mapM (Part.ofPiece b.toList) <;> rfl

theorem render_join (raw : String) (parts others : List Part) (raw' raw'' : String)
    (registry : Registry) (context : Fields) :
    render ⟨raw'', Part.join parts others⟩ registry context = (do
      let x ← render ⟨raw, parts⟩ registry context
      let y ← render ⟨raw', others⟩ registry context
      .ok (x ++ y)) := by
  rw [render_eq, render_eq, render_eq, Part.renderAll_join]
  cases Part.renderAll registry (Scope.ofContext context) parts with
  | error f => rfl
  | ok x =>
    cases Part.renderAll registry (Scope.ofContext context) others with
    | error f => rfl
    | ok y => exact congrArg Except.ok String.ofList_append

/-- A template that was read and a text behind it. -/
theorem parse_append {a b : String} {t : Template} (h : parse a = .ok t)
    (hSeam : ¬ (a.toList.getLast? = some '$' ∧ b.toList.head? = some '{')) :
    ((∃ v, parse (a ++ b) = .ok v) ↔ ∃ u, parse b = .ok u)
      ∧ (∀ u, parse b = .ok u →
        parse (a ++ b) = .ok ⟨a ++ b, Part.join t.parts u.parts⟩
          ∧ ∀ registry context,
            render ⟨a ++ b, Part.join t.parts u.parts⟩ registry context = (do
              let x ← t.render registry context
              let y ← u.render registry context
              .ok (x ++ y)))
      ∧ ∀ e, parse b = .error e →
        parse (a ++ b)
          = .error { e with position := Text.byteLength a.toList + e.position } := by
  have hJoined := parse_seam h hSeam
  cases hb : parse b with
  | error e =>
    rw [hb] at hJoined
    refine ⟨?_, ?_, ?_⟩
    · simp [hJoined]
    · intro u hu
      cases hu
    · intro e' he
      cases he
      exact hJoined
  | ok u =>
    rw [hb] at hJoined
    refine ⟨?_, ?_, ?_⟩
    · simp [hJoined]
    · intro u' hu
      cases hu
      refine ⟨hJoined, ?_⟩
      intro registry context
      exact render_join a t.parts u.parts b (a ++ b) registry context
    · intro e he
      cases he

/-- Literal texts that meet behind a character of two bytes, and a placeholder without an end. -/
theorem parse_append_priced :
    let a := "né $\x7bx ?? 1\x7d costs $"
    let b := "5 $\x7by\x7d"
    let c := "5 $\x7by"
    Text.byteLength a.toList = 21 ∧ ∃ t u e, parse a = .ok t ∧ parse b = .ok u ∧ parse c = .error e
      ∧ parse (a ++ b) = .ok ⟨a ++ b, Part.join t.parts u.parts⟩
      ∧ parse (a ++ c) = .error { e with position := 21 + e.position } := by
  intro a b c
  have hLength : Text.byteLength a.toList = 21 := by decide
  have hText : ¬ (a.toList.getLast? = some '$' ∧ b.toList.head? = some '{') := by decide
  have hOpen : ¬ (a.toList.getLast? = some '$' ∧ c.toList.head? = some '{') := by decide
  have ha : (parse a).isOk = true := by decide +kernel
  have hb : (parse b).isOk = true := by decide +kernel
  have hc : (parse c).isOk = false := by decide +kernel
  obtain ⟨t, hParseA⟩ := exists_of_isOk ha
  obtain ⟨u, hParseB⟩ := exists_of_isOk hb
  obtain ⟨e, hParseC⟩ := exists_of_not_isOk hc
  have hRead := (parse_append hParseA hText).2.1 u hParseB
  have hFails := (parse_append hParseA hOpen).2.2 e hParseC
  rw [hLength] at hFails
  exact ⟨hLength, t, u, e, hParseA, hParseB, hParseC, hRead.1, hFails⟩

end Template

end TextTemplate
