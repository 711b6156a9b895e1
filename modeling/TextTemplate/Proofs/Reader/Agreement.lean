import TextTemplate.Proofs.Parser.Faults
import TextTemplate.Proofs.Reader.Composition

/-!
# The scanner and the lexer agree

The end of a placeholder is looked for by a scanner that knows quotes, escapes and braces only. What
stands in front of the end is then split into tokens by the lexer, which reads quotes and escapes by
itself. Both see the same text: a placeholder ends where the text in front of a closing brace
consists of tokens with matching braces, and nowhere else.

* `closing?_eq_some_iff`: the statement for one placeholder.
* `Template.refused_of_error`: what a template is refused for.
* `Template.lexer_agrees`: the statement for templates.
-/

namespace TextTemplate

open Lexer
open TextTemplate.Parser (tokens)

namespace Piece

/-! ## Open quotes -/

variable {depth : Nat} {quote : Char} {text tail source after : List Char}

theorem map_inFront_eq_some {used : List Char} {found : Option (List Char × List Char)} :
    found.map (inFront used) = some (used ++ source, after) ↔ found = some (source, after) := by
  cases found with
  | none => simp
  | some found => simp [inFront, Prod.ext_iff]

theorem exists_of_map_inFront {used : List Char} {found : Option (List Char × List Char)}
    (h : found.map (inFront used) = some (source, after)) :
    ∃ inner, found = some (inner, after) ∧ source = used ++ inner := by
  obtain ⟨⟨inner, after'⟩, hFound, hEq⟩ := Option.map_eq_some_iff.mp h
  cases hEq
  exact ⟨inner, hFound, rfl⟩

theorem ne_nil_of_quoted (h : closing? depth (some quote) text = some (source, after)) :
    source ≠ [] := by
  rw [closing?.eq_def] at h
  split at h
  · cases h
  · split at h
    · split at h
      · cases h
      · obtain ⟨found, -, hEq⟩ := Option.map_eq_some_iff.mp h
        cases hEq
        simp
    · obtain ⟨found, -, hEq⟩ := Option.map_eq_some_iff.mp h
      cases hEq
      simp
  · rename_i hQuote
    cases hQuote

/-- Where the lexer finds no end of a string literal, the scanner finds no end of a placeholder. -/
theorem length_lt_of_open (hOpen : stringBody? quote text = none)
    (h : closing? depth (some quote) (text ++ tail) = some (source, after)) :
    text.length < source.length := by
  fun_induction stringBody? quote text generalizing source with
  | case1 => exact List.length_pos_iff.mpr (ne_nil_of_quoted h)
  | case2 =>
    -- The escape takes a character from behind the text.
    cases tail with
    | nil => cases h
    | cons d tail =>
      rw [List.singleton_append, closing?_escape] at h
      obtain ⟨inner, -, rfl⟩ := exists_of_map_inFront h
      simp
  | case3 =>
    rename_i ih
    rw [List.cons_append, List.cons_append, closing?_escape] at h
    obtain ⟨inner, hInner, rfl⟩ := exists_of_map_inFront h
    have hLess := ih (Option.map_eq_none_iff.mp hOpen) hInner
    simp only [List.length_cons, List.length_append, List.length_nil]
    omega
  | case4 => cases hOpen
  | case5 c rest hAlone hFollowed hQuote ih =>
    rw [List.cons_append, closing?_quoted (ne_backslash hAlone hFollowed), if_neg hQuote] at h
    obtain ⟨inner, hInner, rfl⟩ := exists_of_map_inFront h
    have hLess := ih (Option.map_eq_none_iff.mp hOpen) hInner
    simp only [List.length_cons, List.length_append, List.length_nil]
    omega

/-- Behind an open quote no placeholder ends. -/
theorem closing?_of_open (depth : Nat) (hOpen : stringBody? quote text = none) :
    closing? depth (some quote) text = none := by
  cases hFound : closing? depth (some quote) text with
  | none => rfl
  | some found =>
    obtain ⟨source, after⟩ := found
    have hText := eq_of_closing? hFound
    rw [← List.append_nil text] at hFound
    have hLess := length_lt_of_open hOpen hFound
    rw [hText, List.length_append] at hLess
    omega

/-! ## The end of a placeholder -/

/-- A token that closes a brace that is not open ends the placeholder. -/
theorem not_closing?_of_braceStep {c : Char} {rest rest' : List Char} {t : Token}
    (hBlank : Text.isBlank c = false) (h : next? c rest = some (t, rest'))
    (hStep : braceStep depth t = none) :
    closing? depth none (c :: rest ++ tail) ≠ some (c :: rest, after) := by
  obtain ⟨rfl, rfl⟩ := eq_of_braceStep_none hStep
  obtain ⟨rfl, -⟩ := eq_of_next?_unknown hBlank h
  rw [List.cons_append, closing?_end]
  simp

/-- What a placeholder holds consists of tokens, and they close the braces that are open. -/
theorem scans_of_closing?
    (h : closing? depth none (source ++ '}' :: after) = some (source, after)) :
    ∃ ts, Scans source ts ∧ bracesAfter? depth ts = some 0 := by
  -- Token by token: what is left of the source is what the scanner still has to find.
  induction hLength : source.length using Nat.strongRecOn generalizing source depth with
  | ind length ih =>
    subst hLength
    cases source with
    | nil =>
      cases depth with
      | zero => exact ⟨[], .nil, rfl⟩
      | succ depth =>
        rw [List.nil_append, closing?_nested] at h
        obtain ⟨inner, -, hEq⟩ := exists_of_map_inFront h
        cases hEq
    | cons c rest =>
      cases hBlank : Text.isBlank c with
      | true =>
        rw [List.cons_append, closing?_plain (plain_of_isBlank hBlank)] at h
        obtain ⟨ts, hScans, hBraces⟩ := ih _ (Nat.lt_succ_self _) (map_inFront_eq_some.mp h) rfl
        exact ⟨ts, .blank hBlank hScans, hBraces⟩
      | false =>
        cases hNext : next? c rest with
        | none =>
          obtain ⟨hQuote, hOpen⟩ := open_of_next? hNext
          rw [List.cons_append, closing?_quote hQuote] at h
          have hLess := length_lt_of_open hOpen (map_inFront_eq_some.mp h)
          omega
        | some found =>
          obtain ⟨t, rest'⟩ := found
          cases hStep : braceStep depth t with
          | none => exact absurd h (not_closing?_of_braceStep hBlank hNext hStep)
          | some next =>
            obtain ⟨used, hUsed, hPasses⟩ := closing?_of_next? hBlank hNext hStep
            have hShorter : rest'.length < (c :: rest).length :=
              Nat.lt_succ_of_le (next?_suffix hNext).length_le
            rw [hUsed, List.append_assoc, hPasses] at h
            obtain ⟨ts, hScans, hBraces⟩ := ih _ hShorter (map_inFront_eq_some.mp h) rfl
            refine ⟨t :: ts, .token hBlank hNext hScans, ?_⟩
            rw [bracesAfter?_cons, hStep]
            exact hBraces

/-- A placeholder ends at a closing brace if the text in front of it consists of tokens with
matching braces, and only there. -/
theorem closing?_eq_some_iff : closing? 0 none text = some (source, after) ↔
    text = source ++ '}' :: after ∧ ∃ ts, Scans source ts ∧ BracesMatch ts := by
  constructor
  · intro h
    have hText := eq_of_closing? h
    rw [hText] at h
    exact ⟨hText, scans_of_closing? h⟩
  · rintro ⟨rfl, ts, hScans, hBraces⟩
    rw [closing?_of_scans hScans hBraces, closing?_end, Option.map_some, inFront, List.append_nil]

/-- Where the lexer fails at a quote, the placeholder has ended in front of it or has no end. -/
theorem closing?_of_fault {f : LocatedFault} (h : lexemes text = .error f) :
    closing? 0 none text = none ∨ ∃ source after,
      closing? 0 none text = some (source, after) ∧ Text.byteLength source < f.position := by
  obtain ⟨used, ts, c, rest, hText, hScans, hNext, rfl⟩ := scansTo_of_error h
  cases hBraces : bracesAfter? 0 ts with
  | none =>
    obtain ⟨source, more, hFound⟩ := closing?_before hScans hBraces
    refine .inr ⟨source, _, hFound, ?_⟩
    have hEnd : text = (source ++ '}' :: more) ++ c :: rest := by
      rw [eq_of_closing? hFound, List.append_assoc]
      rfl
    have hUsed : used = source ++ '}' :: more := List.append_cancel_right (hText.symm.trans hEnd)
    have hBrace : '}'.utf8Size = 1 := rfl
    have hLonger : Text.byteLength used = Text.byteLength source + (1 + Text.byteLength more) := by
      rw [hUsed, Text.byteLength_append, Text.byteLength, hBrace]
    exact lt_of_lt_of_eq (by omega) hLonger.symm
  | some next =>
    obtain ⟨hQuote, hOpen⟩ := open_of_next? hNext
    obtain ⟨passed, hPassed, hPasses⟩ := closing?_of_scansTo hScans hBraces
    left
    rw [hPassed, hPasses, closing?_quote hQuote, closing?_of_open _ hOpen]
    rfl

/-! ## Pieces where they stand -/

/-- The piece is found in a text that starts at the position. -/
def Occurs (position : Nat) (text : List Char) : Piece → Prop
  | .text s => s <:+: text
  | .placeholder start source => ∃ before after,
    text = before ++ '$' :: '{' :: (source ++ '}' :: after)
      ∧ start = position + Text.byteLength before + 2
      ∧ ∃ ts, Scans source ts ∧ BracesMatch ts
  | .unclosed start => ∃ before inside,
    text = before ++ '$' :: '{' :: inside ∧ start = position + Text.byteLength before
      ∧ closing? 0 none inside = none

theorem Occurs.behind {position : Nat} {rest : List Char} {piece : Piece} (s : List Char)
    (h : Occurs (position + Text.byteLength s) rest piece) : Occurs position (s ++ rest) piece := by
  cases piece with
  | text s' => exact h.trans (List.suffix_append s rest).isInfix
  | placeholder start source =>
    obtain ⟨before, after, rfl, rfl, hSource⟩ := h
    refine ⟨s ++ before, after, (List.append_assoc _ _ _).symm, ?_, hSource⟩
    rw [Text.byteLength_append, Nat.add_assoc position]
  | unclosed start =>
    obtain ⟨before, inside, rfl, rfl, hNone⟩ := h
    refine ⟨s ++ before, inside, (List.append_assoc _ _ _).symm, ?_, hNone⟩
    rw [Text.byteLength_append, Nat.add_assoc position]

theorem occurs_of_cut {position : Nat} {ps : List Piece} (h : Cut position text ps) :
    ∀ piece ∈ ps, Occurs position text piece := by
  induction h with
  | nil => simp
  | @text position s rest ps _ _ _ _ ih =>
    intro piece hMem
    rcases List.mem_cons.mp hMem with rfl | hMem
    · exact (List.prefix_append s rest).isInfix
    · exact (ih piece hMem).behind s
  | @placeholder position rest source after ps hClosing _ ih =>
    obtain ⟨rfl, hSource⟩ := closing?_eq_some_iff.mp hClosing
    intro piece hMem
    rcases List.mem_cons.mp hMem with rfl | hMem
    · exact ⟨[], after, rfl, rfl, hSource⟩
    · have hSplit : '$' :: '{' :: (source ++ '}' :: after)
          = ('$' :: '{' :: (source ++ ['}'])) ++ after := by simp
      rw [hSplit]
      refine Occurs.behind _ ?_
      have hLength : Text.byteLength ('$' :: '{' :: (source ++ ['}']))
          = 2 + Text.byteLength source + 1 := byteLength_placeholder source []
      rw [hLength, ← Nat.add_assoc, ← Nat.add_assoc]
      exact ih piece hMem
  | @unclosed position rest hClosing =>
    intro piece hMem
    obtain rfl := List.mem_singleton.mp hMem
    exact ⟨[], rest, rfl, rfl, hClosing⟩

end Piece

/-! ## Templates -/

/-- The lexer accepts the text, and its braces outside of string literals match. -/
def Splits (source : List Char) : Prop :=
  ∃ ls, lexemes source = .ok ls ∧ Piece.BracesMatch (tokens ls)

instance (source : List Char) : Decidable (Splits source) :=
  match h : lexemes source with
  | .ok ls =>
    decidable_of_iff (Piece.BracesMatch (tokens ls))
      ⟨fun hBraces => ⟨ls, h, hBraces⟩, fun ⟨ls', h', hBraces⟩ => by
        rw [h] at h'
        cases h'
        exact hBraces⟩
  | .error f => isFalse fun ⟨ls, h', _⟩ => by
    rw [h] at h'
    cases h'

theorem splits_iff {source : List Char} :
    Splits source ↔ ∃ ts, Scans source ts ∧ Piece.BracesMatch ts := by
  -- The end mark is no brace.
  have hFinish (body : List Lexeme) (last : Nat) :
      Piece.BracesMatch (tokens (body ++ [⟨.finish, last⟩])) ↔ Piece.BracesMatch (tokens body) := by
    rw [Parser.tokens_append, Piece.BracesMatch, Piece.bracesAfter?, List.foldlM_append]
    change ((Piece.bracesAfter? 0 (tokens body)).bind fun depth => some depth) = some 0 ↔ _
    rw [Option.bind_fun_some]
    rfl
  constructor
  · rintro ⟨ls, hLexemes, hBraces⟩
    obtain ⟨body, last, rfl, hScans⟩ := scans_of_lexemes hLexemes
    exact ⟨tokens body, hScans, (hFinish body last).mp hBraces⟩
  · rintro ⟨ts, hScans, hBraces⟩
    obtain ⟨body, last, hLexemes, rfl⟩ := lexemes_of_scans hScans
    exact ⟨_, hLexemes, (hFinish body last).mpr hBraces⟩

/-- What a text is refused for as a template. -/
inductive Refused (text : List Char) : SyntaxError → Prop
  | unclosed {before inside : List Char} : text = before ++ '$' :: '{' :: inside →
      Piece.closing? 0 none inside = none →
      Refused text ⟨.unclosedPlaceholder, Text.byteLength before,
        String.ofList (('$' :: '{' :: inside).take 20)⟩
  | empty {start : Nat} {source : List Char} : .placeholder start source ∈ Piece.pieces text →
      Text.trim source = [] → Refused text ⟨.emptyExpression, start, ""⟩
  | expression {start : Nat} {source : List Char} {ls : List Lexeme} {f : LocatedFault} :
      .placeholder start source ∈ Piece.pieces text → Text.trim source ≠ [] →
      lexemes source = .ok ls → Parser.expression ls = .error f → f.fault ≠ .unclosedText →
      Refused text (f.toError source start)

theorem Refused.fault {text : List Char} {e : SyntaxError} (h : Refused text e) :
    e.fault ≠ .unclosedText := by
  cases h with
  | unclosed => simp
  | empty => simp
  | expression _ _ _ _ hFault => exact hFault

theorem Text.ne_of_front {a b c : String} (h : c.toList.take a.toList.length ≠ a.toList) :
    a ++ b ≠ c := by
  rintro rfl
  exact h (by simp)

/-- No other fault has the message for a string literal that is not closed. -/
theorem SyntaxFault.message_ne_unclosed {f : SyntaxFault} (h : f ≠ .unclosedText) :
    f.message ≠ "unclosed string literal" := by
  unfold message
  cases f with
  | unclosedText => exact absurd rfl h
  | unexpected | unclosedCall => exact Text.ne_of_front (by decide)
  | trailing | missing | callSeparator =>
    simp only [String.append_assoc]
    exact Text.ne_of_front (by decide)
  | _ => decide

theorem SyntaxFault.message_ne_number (f : SyntaxFault) (digits : String) :
    f.message ≠ "invalid number: " ++ digits := by
  intro h
  have hFirst : f.message.toList.head? = some 'i' := by
    rw [h, String.toList_append]
    rfl
  unfold message at hFirst
  cases f with
  | trailing | missing | unexpected | unclosedCall | callSeparator =>
    simp only [String.toList_append, List.append_assoc] at hFirst
    cases hFirst
  | _ => cases hFirst

theorem occurs_of_mem {text : List Char} {piece : Piece} (h : piece ∈ Piece.pieces text) :
    Piece.Occurs 0 text piece := Piece.occurs_of_cut (Piece.cut_pieces text) piece h

namespace Template

theorem refused_of_error {raw : String} {e : SyntaxError} (h : parse raw = .error e) :
    Refused raw.toList e := by
  obtain ⟨piece, hMem, hError⟩ := exists_of_mapM_error (parse_eq_error h)
  have hOccurs := occurs_of_mem hMem
  cases piece with
  | text s => cases hError
  | unclosed start =>
    obtain ⟨before, inside, hText, rfl, hNone⟩ := hOccurs
    cases hError
    rw [Nat.zero_add, hText, Text.excerpt_behind]
    exact .unclosed rfl hNone
  | placeholder start source =>
    obtain ⟨_, _, -, -, hSource⟩ := hOccurs
    obtain ⟨ls, hLexemes, -⟩ := splits_iff.mpr hSource
    rw [Part.ofPiece, Part.parse, hLexemes] at hError
    split at hError
    · rename_i hBlank
      cases hError
      exact .empty hMem hBlank
    · rename_i hSome
      dsimp only at hError
      cases hRead : Parser.expression ls with
      | ok part =>
        rw [hRead] at hError
        cases hError
      | error f =>
        rw [hRead] at hError
        cases hError
        exact .expression hMem hSome hLexemes hRead (Parser.blames_of_expression hRead).fault

theorem parse_unclosed {before inside : String} {t : Template} (h : parse before = .ok t)
    (hNone : Piece.closing? 0 none inside.toList = none) :
    parse (before ++ ("$\x7b" ++ inside)) = .error ⟨.unclosedPlaceholder,
      Text.byteLength before.toList, String.ofList (("$\x7b" ++ inside).toList.take 20)⟩ := by
  have hChars : ("$\x7b" ++ inside).toList = '$' :: '{' :: inside.toList := by
    rw [String.toList_append]
    rfl
  have hApart : Apart before.toList ("$\x7b" ++ inside).toList := by
    rw [hChars]
    rintro ⟨-, hHead⟩
    cases hHead
  have hPieces : Piece.pieces ("$\x7b" ++ inside).toList = [.unclosed 0] := by
    rw [hChars]
    exact Piece.pieces_of_cut (.unclosed hNone)
  have hExcerpt : Text.excerpt ("$\x7b" ++ inside).toList 0 = ("$\x7b" ++ inside).toList.take 20 :=
    Text.excerpt_behind [] _
  rw [parse_seam h hApart, parse_eq, hPieces, List.mapM_cons, Part.ofPiece, hExcerpt]
  rfl

/-- A placeholder by itself. -/
theorem parse_single {e : String} (h : Splits e.toList) :
    Piece.pieces ("$\x7b" ++ e ++ "\x7d").toList = [.placeholder 2 e.toList]
      ∧ parse ("$\x7b" ++ e ++ "\x7d")
        = (Part.parse e.toList 2).map fun part => ⟨"$\x7b" ++ e ++ "\x7d", [part]⟩ := by
  have hChars : ("$\x7b" ++ e ++ "\x7d").toList = '$' :: '{' :: (e.toList ++ ['}']) := by
    rw [String.toList_append, String.toList_append]
    rfl
  have hPieces : Piece.pieces ("$\x7b" ++ e ++ "\x7d").toList = [.placeholder 2 e.toList] := by
    rw [hChars]
    have hClosing : Piece.closing? 0 none (e.toList ++ ['}']) = some (e.toList, []) :=
      Piece.closing?_eq_some_iff.mpr ⟨rfl, splits_iff.mp h⟩
    exact Piece.pieces_of_cut (.placeholder hClosing (.nil _))
  refine ⟨hPieces, ?_⟩
  rw [parse_eq, hPieces, List.mapM_cons, Part.ofPiece]
  cases Part.parse e.toList 2 <;> rfl

/-- How the cutting of a text and the lexer fit together. -/
structure LexerAgrees : Prop where
  /-- A placeholder ends at a closing brace behind a text that splits, and nowhere else. -/
  ends (inside source after : List Char) :
    Piece.closing? 0 none inside = some (source, after)
      ↔ inside = source ++ '}' :: after ∧ Splits source
  /-- Every placeholder that is cut out stands in the text and splits. -/
  splits (raw : String) (start : Nat) (source : List Char) :
    .placeholder start source ∈ Piece.pieces raw.toList →
      Splits source ∧ ∃ before after,
        raw.toList = before ++ '$' :: '{' :: (source ++ '}' :: after)
          ∧ start = Text.byteLength before + 2
  /-- A digit starts the text of a number, which is the token. -/
  number (c : Char) (rest : List Char) : c.isDigit = true →
    ∃ used n after, c :: rest = used ++ after ∧ Numeral.ofText? used = some n
      ∧ next? c rest = some (.number n.value, after)
  /-- No error is one of the lexer. -/
  refused (raw : String) (e : SyntaxError) : parse raw = .error e →
    e.fault.message ≠ "unclosed string literal"
      ∧ (∀ digits, e.fault.message ≠ "invalid number: " ++ digits) ∧ Refused raw.toList e
  /-- Where the lexer would come to a quote that is left open, the placeholder has ended before, or
  it is refused at its start. -/
  quote (before inside : String) (t : Template) (f : LocatedFault) : parse before = .ok t →
    lexemes inside.toList = .error f →
    (∃ source after, Piece.closing? 0 none inside.toList = some (source, after)
        ∧ Text.byteLength source < f.position)
      ∨ parse (before ++ ("$\x7b" ++ inside)) = .error ⟨.unclosedPlaceholder,
        Text.byteLength before.toList, String.ofList (("$\x7b" ++ inside).toList.take 20)⟩
  /-- An expression that splits is the only piece of the placeholder made of it. -/
  single (e : String) : Splits e.toList →
    Piece.pieces ("$\x7b" ++ e ++ "\x7d").toList = [.placeholder 2 e.toList]
      ∧ parse ("$\x7b" ++ e ++ "\x7d")
        = (Part.parse e.toList 2).map fun part => ⟨"$\x7b" ++ e ++ "\x7d", [part]⟩

theorem lexer_agrees : LexerAgrees where
  ends inside source after := by
    rw [splits_iff]
    exact Piece.closing?_eq_some_iff
  splits raw start source := by
    intro hMem
    obtain ⟨before, after, hText, hStart, hSource⟩ := occurs_of_mem hMem
    rw [Nat.zero_add] at hStart
    exact ⟨splits_iff.mpr hSource, before, after, hText, hStart⟩
  number c rest := exists_number rest
  refused raw e := by
    intro hError
    have hRefused := refused_of_error hError
    exact ⟨SyntaxFault.message_ne_unclosed hRefused.fault, e.fault.message_ne_number, hRefused⟩
  quote before inside t f := by
    intro hBefore hFault
    rcases Piece.closing?_of_fault hFault with hNone | hEnded
    · exact .inr (parse_unclosed hBefore hNone)
    · exact .inl hEnded
  single e := parse_single

/-- A quote that an escape keeps open, and braces inside and outside of a string literal. -/
theorem lexer_agrees_quoted :
    let before := "é "
    let inside := "f('it\\'s\x7d"
    let e := "\x7bx\x7d + '\x7d'"
    (parse before).isOk = true ∧ (lexemes inside.toList).isOk = false
      ∧ parse (before ++ ("$\x7b" ++ inside)) = .error ⟨.unclosedPlaceholder, 3,
        String.ofList (("$\x7b" ++ inside).toList.take 20)⟩
      ∧ Splits e.toList
      ∧ Piece.pieces ("$\x7b" ++ e ++ "\x7d").toList = [.placeholder 2 e.toList] := by
  intro before inside e
  have hBefore : (parse before).isOk = true := by decide +kernel
  have hLength : Text.byteLength before.toList = 3 := by decide
  have hInside : (lexemes inside.toList).isOk = false := by decide +kernel
  have hSplits : Splits e.toList := by decide +kernel
  obtain ⟨t, ht⟩ := exists_of_isOk hBefore
  obtain ⟨f, hf⟩ := exists_of_not_isOk hInside
  have hOpen : Piece.closing? 0 none inside.toList = none := by decide +kernel
  rcases lexer_agrees.quote before inside t f ht hf with ⟨source, after, hEnded, -⟩ | hRefused
  · rw [hOpen] at hEnded
    cases hEnded
  · rw [hLength] at hRefused
    exact ⟨hBefore, hInside, hRefused, hSplits, (lexer_agrees.single e hSplits).1⟩

end Template

end TextTemplate
