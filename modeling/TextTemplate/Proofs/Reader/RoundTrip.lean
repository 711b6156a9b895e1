import TextTemplate.Proofs.Parser.Soundness
import TextTemplate.Proofs.Printer.Source
import TextTemplate.Proofs.Reader.Pieces

/-!
# Templates are read back from their source

The parts of a template that was read are literal text without placeholders, never twice in a row,
and parts that the parser emits. The source of such parts is cut where it was put together, and each
placeholder is read as the part that was written into it.

* `Laid`: the parts of a template that was read.
* `laid_of_cut`, `cut_of_laid`: what is read is laid out in this way, and what is laid out so is
  read back.
* `parse_canonical`: the source of a template is read as the same template.
-/

namespace TextTemplate

open Grammar Lexer
open TextTemplate.Parser (tokens)

/-! ## Expressions -/

/-- Is no number of the lexemes infinite? -/
def finiteNumbers (lexemes : List Lexeme) : Bool :=
  lexemes.all fun lexeme =>
    match lexeme.token with
    | .number x => x.isFinite
    | _ => true

theorem isFinite_of_finiteNumbers {lexemes : List Lexeme} (h : finiteNumbers lexemes = true)
    {x : Number} (hx : .number x ∈ tokens lexemes) : x.isFinite = true := by
  obtain ⟨lexeme, hMem, hToken⟩ := List.mem_map.mp hx
  have hLexeme := List.all_eq_true.mp h lexeme hMem
  rwa [hToken] at hLexeme

/-- What is read from an expression is a part that the parser emits. -/
theorem emitted_of_parse {source : List Char} {base : Nat} {p : Part}
    (h : Part.parse source base = .ok p)
    (hFinite : ∀ lexemes, Lexer.lexemes source = .ok lexemes → finiteNumbers lexemes = true) :
    Emitted p := by
  obtain ⟨body, last, hLexemes, hScans, hDerives⟩ := Part.exists_lexemes_of_parse h
  have hLexed := lexed_of_scans hScans
  refine emitted_of_derives hDerives fun t ht => ⟨hLexed t ht, ?_⟩
  rintro x rfl
  refine isFinite_of_finiteNumbers (hFinite _ hLexemes) ?_
  rw [Parser.tokens_append]
  exact List.mem_append_left _ ht

theorem exists_scans {p : Part} (h : Emitted p) :
    ∃ ts q, q.same p = true ∧ Derives NoRecovery ts (.ternary q) ∧ Scans p.source ts := by
  obtain ⟨ts, q, hSame, hDerives, -, hSpells⟩ := rereads_of_emitted h
  have hScans := hSpells [] [] Boundary.nil .nil
  rw [List.append_nil, List.append_nil] at hScans
  exact ⟨ts, q, hSame, .unconditional hDerives, hScans⟩

/-- A text that consists of white space holds no tokens. -/
theorem trim_ne_nil_of_scans {text : List Char} {ts : List Token} (h : Scans text ts)
    (hSome : ts ≠ []) : Text.trim text ≠ [] := by
  intro hTrim
  rw [← scans_trimStart] at h
  unfold Text.trim at hTrim
  rcases trimStart_cases text with hNil | ⟨c, rest, hCons, hBlank⟩
  · rw [hNil] at h
    cases h
    exact hSome rfl
  · rw [hCons, Text.trimEnd, List.reverse_eq_nil_iff] at hTrim
    have hAll : (c :: rest).reverse.takeWhile Text.isBlank = (c :: rest).reverse := by
      have hSplit := List.takeWhile_append_dropWhile (p := Text.isBlank) (l := (c :: rest).reverse)
      rwa [hTrim, List.append_nil] at hSplit
    have hMem : c ∈ (c :: rest).reverse := by simp
    rw [← hAll] at hMem
    rw [all_of_mem_takeWhile c hMem] at hBlank
    cases hBlank

/-- A text of tokens from which a part is derived is read as the part. -/
theorem parse_of_scans {source : List Char} {ts : List Token} {p : Part} (hScans : Scans source ts)
    (hDerives : Derives NoRecovery ts (.ternary p)) (base : Nat) :
    Part.parse source base = .ok p := by
  obtain ⟨body, last, hLexemes, rfl⟩ := lexemes_of_scans hScans
  unfold Part.parse
  rw [if_neg (trim_ne_nil_of_scans hScans hDerives.ne_nil), hLexemes]
  dsimp only
  rw [Parser.expression_of_derives hDerives]

/-- The source of a part is read as the same part. -/
theorem parse_source {p : Part} (h : Emitted p) (base : Nat) :
    ∃ q, Part.parse p.source base = .ok q ∧ q.same p = true := by
  obtain ⟨ts, q, hSame, hDerives, hScans⟩ := exists_scans h
  exact ⟨q, parse_of_scans hScans hDerives base, hSame⟩

/-- The scanner finds the end of a placeholder behind the source of a part. -/
theorem closing?_source {p : Part} (h : Emitted p) (rest : List Char) :
    Piece.closing? 0 none (p.source ++ '}' :: rest) = some (p.source, rest) := by
  obtain ⟨ts, q, -, hDerives, hScans⟩ := exists_scans h
  have hPasses := Piece.passes_of_scans hScans fun t ht =>
    ⟨hDerives.ne_unknown ht '{', hDerives.ne_unknown ht '}'⟩
  have hEnd : Piece.closing? 0 none ('}' :: rest) = some ([], rest) := rfl
  rw [hPasses, hEnd, Option.map_some, Piece.inFront, List.append_nil]

/-! ## Layout -/

/-- The parts of a template that was read. -/
inductive Laid : List Part → Prop
  | nil : Laid []
  | text {s : List Char} {ps : List Part} :
      s ≠ [] → Piece.Literal s → Piece.EndsText (ps.flatMap Part.placed) → Laid ps →
      Laid (.text (String.ofList s) :: ps)
  | placeholder {p : Part} {ps : List Part} : Emitted p → Laid ps → Laid (p :: ps)

theorem placed_of_emitted {p : Part} (h : Emitted p) :
    p.placed = '$' :: '{' :: (p.source ++ ['}']) := by
  cases h <;> rfl

/-- Are all numbers in a piece finite? -/
def Piece.finite : Piece → Bool
  | .placeholder _ source =>
    match Lexer.lexemes source with
    | .ok lexemes => finiteNumbers lexemes
    | .error _ => true
  | _ => true

theorem emitted_of_placeholder {template source : List Char} {position : Nat} {p : Part}
    (hFinite : (Piece.placeholder position source).finite = true)
    (h : Part.ofPiece template (.placeholder position source) = .ok p) : Emitted p := by
  refine emitted_of_parse h fun lexemes hLexemes => ?_
  rwa [Piece.finite, hLexemes] at hFinite

theorem endsText_of_emitted {p : Part} (h : Emitted p) (ps : List Part) :
    Piece.EndsText ((p :: ps).flatMap Part.placed) := by
  rw [List.flatMap_cons, placed_of_emitted h]
  exact .inr rfl

/-- The induction also shows that literal text which ends in the template ends in its source. -/
theorem laid_and_endsText_of_cut {template text : List Char} {position : Nat} {ps : List Piece}
    {parts : List Part} (hCut : Piece.Cut position text ps)
    (hFinite : ∀ piece ∈ ps, Piece.finite piece = true)
    (h : ps.mapM (Part.ofPiece template) = .ok parts) :
    Laid parts ∧ (Piece.EndsText text → Piece.EndsText (parts.flatMap Part.placed)) := by
  induction hCut generalizing parts with
  | nil =>
    cases h
    exact ⟨.nil, id⟩
  | text hSome hLiteral hEnds _ ih =>
    obtain ⟨p, rest, hPart, hRest, rfl⟩ := mapM_cons_eq_ok.mp h
    cases hPart
    obtain ⟨hLaid, hEndsRest⟩ := ih (List.forall_mem_cons.mp hFinite).2 hRest
    refine ⟨.text hSome hLiteral (hEndsRest hEnds) hLaid, fun hText => ?_⟩
    -- Literal text does not start where literal text ends: it would have been one piece.
    exact absurd hText (hLiteral.not_endsText hSome hEnds)
  | placeholder hClosing _ ih =>
    obtain ⟨p, rest, hPart, hRest, rfl⟩ := mapM_cons_eq_ok.mp h
    obtain ⟨hFinitePiece, hFiniteRest⟩ := List.forall_mem_cons.mp hFinite
    have hEmitted := emitted_of_placeholder hFinitePiece hPart
    exact ⟨.placeholder hEmitted (ih hFiniteRest hRest).1, fun _ => endsText_of_emitted hEmitted _⟩
  | unclosed =>
    obtain ⟨p, rest, hPart, -⟩ := mapM_cons_eq_ok.mp h
    cases hPart

theorem laid_of_cut {template text : List Char} {position : Nat} {ps : List Piece}
    {parts : List Part} (hCut : Piece.Cut position text ps)
    (hFinite : ∀ piece ∈ ps, Piece.finite piece = true)
    (h : ps.mapM (Part.ofPiece template) = .ok parts) : Laid parts :=
  (laid_and_endsText_of_cut hCut hFinite h).1

theorem cut_of_laid {parts : List Part} (h : Laid parts) (template : List Char) (position : Nat) :
    ∃ ps again, Piece.Cut position (parts.flatMap Part.placed) ps ∧
      ps.mapM (Part.ofPiece template) = .ok again ∧ Part.sameAll again parts = true := by
  induction h generalizing position with
  | nil => exact ⟨[], [], .nil position, rfl, rfl⟩
  | @text s parts hSome hLiteral hEnds _ ih =>
    obtain ⟨ps, again, hCut, hRead, hSame⟩ := ih (position + Text.byteLength s)
    refine ⟨.text s :: ps, .text (String.ofList s) :: again, ?_, ?_, ?_⟩
    · have hText : (Part.text (String.ofList s)).placed = s := String.toList_ofList
      rw [List.flatMap_cons, hText]
      exact .text hSome hLiteral hEnds hCut
    · exact mapM_cons_eq_ok.mpr ⟨_, _, rfl, hRead, rfl⟩
    · simp [Part.sameAll, Part.same, hSame]
  | @placeholder p parts hEmitted _ ih =>
    obtain ⟨q, hParse, hSamePart⟩ := parse_source hEmitted (position + 2)
    obtain ⟨ps, again, hCut, hRead, hSame⟩ := ih (position + 2 + Text.byteLength p.source + 1)
    refine ⟨.placeholder (position + 2) p.source :: ps, q :: again, ?_, ?_, ?_⟩
    · rw [List.flatMap_cons, placed_of_emitted hEmitted]
      simp only [List.cons_append, List.append_assoc, List.nil_append]
      exact .placeholder (closing?_source hEmitted _) hCut
    · exact mapM_cons_eq_ok.mpr ⟨_, _, hParse, hRead, rfl⟩
    · simp [Part.sameAll, hSamePart, hSame]

/-! ## Templates -/

/-- Is no number in the placeholders of a text infinite? -/
def Template.finiteNumerals (raw : String) : Bool := (Piece.pieces raw.toList).all Piece.finite

/-- The source of a template is read as the same parts; a zero may only lose its sign. -/
theorem Template.parse_canonical {raw : String} {t : Template} (h : Template.parse raw = .ok t)
    (hFinite : Template.finiteNumerals raw = true) :
    ∃ again, Template.parse (String.ofList t.source) = .ok again ∧
      Part.sameAll again.parts t.parts = true := by
  have hLaid := laid_of_cut (Piece.cut_pieces _) (List.all_eq_true.mp hFinite) (parse_eq_ok h)
  obtain ⟨ps, again, hCut, hRead, hSame⟩ := cut_of_laid hLaid t.source 0
  refine ⟨⟨String.ofList t.source, again⟩, ?_, hSame⟩
  have hPieces : Piece.pieces t.source = ps := Piece.pieces_of_cut hCut
  rw [Template.parse, String.toList_ofList, hPieces, hRead]

/-- Text that ends in a dollar sign, a recovered operand and a string with a quote and a brace. -/
theorem Template.parse_canonical_recovered :
    let raw := "cost $$\x7bf(x.true[3] > -0 ? 'it\\'s \x7d' : == 1 ?? 'b')\x7d"
    Template.finiteNumerals raw = true ∧ ∃ t again, Template.parse raw = .ok t ∧
      Template.parse (String.ofList t.source) = .ok again ∧
      Part.sameAll again.parts t.parts = true := by
  intro raw
  have hFinite : Template.finiteNumerals raw = true := by decide +kernel
  have hOk : (Template.parse raw).isOk = true := by decide +kernel
  refine ⟨hFinite, ?_⟩
  cases hParse : Template.parse raw with
  | error e =>
    rw [hParse] at hOk
    cases hOk
  | ok t =>
    obtain ⟨again, hAgain, hSame⟩ := Template.parse_canonical hParse hFinite
    exact ⟨t, again, rfl, hAgain, hSame⟩

end TextTemplate
