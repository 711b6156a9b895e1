import Mathlib.Data.Bool.AllAny
import TextTemplate.Proofs.Lexer.Sources
import TextTemplate.Template.Reader

/-!
# Tokens and the end of a placeholder

The scanner that looks for the end of a placeholder knows quotes and braces only. It passes over
every token of the lexer that is not a brace. Over a text that consists of tokens it passes as far
as no more braces are closed than open, and then it has counted the braces among the tokens.

* `Passes.of_writes`, `closing?_of_next?`: the statements for one token.
* `closing?_of_scansTo`, `closing?_before`: the statements for a run of tokens; `passes_of_scans` is
  the one without braces.
-/

namespace TextTemplate.Piece

open Lexer

/-- Puts a text in front of what a placeholder holds. -/
def inFront (text : List Char) (found : List Char × List Char) : List Char × List Char :=
  (text ++ found.1, found.2)

/-- The scanner passes over the text and is outside of quotes again. -/
def Passes (text : List Char) : Prop :=
  ∀ depth tail, closing? depth none (text ++ tail)
    = (closing? depth none tail).map (inFront text)

/-- A character that the scanner does not look at outside of quotes. -/
structure Plain (c : Char) : Prop where
  opening : c ≠ '{'
  closing : c ≠ '}'
  quote : ¬ (c = '\'' ∨ c = '"')

instance (c : Char) : Decidable (Plain c) :=
  decidable_of_iff (c ≠ '{' ∧ c ≠ '}' ∧ ¬ (c = '\'' ∨ c = '"'))
    ⟨fun ⟨hOpening, hClosing, hQuote⟩ => ⟨hOpening, hClosing, hQuote⟩,
      fun h => ⟨h.opening, h.closing, h.quote⟩⟩

/-! ## Steps of the scanner -/

theorem map_inFront_nil (found : Option (List Char × List Char)) :
    found.map (inFront []) = found := by
  cases found <;> rfl

theorem map_inFront_append (text more : List Char) (found : Option (List Char × List Char)) :
    (found.map (inFront more)).map (inFront text) = found.map (inFront (text ++ more)) := by
  cases found with
  | none => rfl
  | some found => simp [inFront]

theorem closing?_plain {c : Char} (h : Plain c) (depth : Nat) (rest : List Char) :
    closing? depth none (c :: rest) = (closing? depth none rest).map (inFront [c]) := by
  rw [closing?, if_neg fun hEnd => h.closing hEnd.1]
  dsimp only
  rw [if_neg h.quote, if_neg h.opening, if_neg h.closing]
  rfl

theorem closing?_quote {c : Char} (h : c = '\'' ∨ c = '"') (depth : Nat) (rest : List Char) :
    closing? depth none (c :: rest) = (closing? depth (some c) rest).map (inFront [c]) := by
  have hOpening : c ≠ '{' := by rcases h with rfl | rfl <;> decide
  have hClosing : c ≠ '}' := by rcases h with rfl | rfl <;> decide
  rw [closing?, if_neg fun hEnd => hClosing hEnd.1]
  dsimp only
  rw [if_pos h, if_neg hOpening, if_neg hClosing]
  rfl

theorem closing?_escape (depth : Nat) (quote c : Char) (rest : List Char) :
    closing? depth (some quote) ('\\' :: c :: rest)
      = (closing? depth (some quote) rest).map (inFront ['\\', c]) := by
  rw [closing?, if_pos rfl]
  rfl

theorem closing?_quoted {c : Char} (h : c ≠ '\\') (depth : Nat) (quote : Char)
    (rest : List Char) : closing? depth (some quote) (c :: rest)
      = (closing? depth (if c = quote then none else some quote) rest).map (inFront [c]) := by
  rw [closing?.eq_def]
  dsimp only
  rw [if_neg h]
  rfl

theorem closing?_opening (depth : Nat) (rest : List Char) :
    closing? depth none ('{' :: rest) = (closing? (depth + 1) none rest).map (inFront ['{']) := by
  rw [closing?, if_neg (by simp)]
  rfl

theorem closing?_nested (depth : Nat) (rest : List Char) :
    closing? (depth + 1) none ('}' :: rest) = (closing? depth none rest).map (inFront ['}']) := by
  rw [closing?, if_neg (by simp)]
  rfl

theorem closing?_end (rest : List Char) : closing? 0 none ('}' :: rest) = some ([], rest) := by
  rw [closing?, if_pos ⟨rfl, rfl⟩]

/-! ## Texts that are passed over -/

theorem Passes.nil : Passes [] := fun _ _ => (map_inFront_nil _).symm

theorem Passes.append {text more : List Char} (hText : Passes text) (hMore : Passes more) :
    Passes (text ++ more) := by
  intro depth tail
  rw [List.append_assoc, hText, hMore, map_inFront_append]

theorem Passes.single {c : Char} (h : Plain c) : Passes [c] := fun depth tail =>
  closing?_plain h depth tail

theorem Passes.of_plain {text : List Char} (h : ∀ c ∈ text, Plain c) : Passes text := by
  induction text with
  | nil => exact Passes.nil
  | cons c text ih =>
    obtain ⟨hc, hText⟩ := List.forall_mem_cons.mp h
    exact (Passes.single hc).append (ih hText)

/-- The scanner leaves a string literal at the quote that ends it. -/
theorem closing?_literal {quote : Char} {source body : List Char} (h : Quoted quote source body)
    (hQuote : quote ≠ '\\') (depth : Nat) (tail : List Char) :
    closing? depth (some quote) (source ++ quote :: tail)
      = (closing? depth none tail).map (inFront (source ++ [quote])) := by
  induction h with
  | nil =>
    rw [List.nil_append, closing?_quoted hQuote, if_pos rfl]
    rfl
  | escape _ ih =>
    rw [List.cons_append, List.cons_append, closing?_escape, ih, map_inFront_append]
    rfl
  | plain hNe hKept _ ih =>
    rw [List.cons_append, closing?_quoted hKept, if_neg hNe, ih, map_inFront_append]
    rfl

/-! ## Tokens -/

theorem plain_of_symbol {source : List Char} {t : Token} (h : symbol? t = some source) :
    ∀ c ∈ source, Plain c := by
  cases t <;> cases h <;> exact List.all_iff_forall_prop.mp (by decide)

theorem plain_of_class {p : Char → Bool} (hClass : ['{', '}', '\'', '"'].any p = false) {c : Char}
    (h : p c = true) : Plain c := by
  have hNe := ne_of_class hClass h
  simp only [List.forall_mem_cons] at hNe
  obtain ⟨hOpening, hClosing, hSingle, hDouble, -⟩ := hNe
  exact ⟨hOpening, hClosing, not_or.mpr ⟨hSingle, hDouble⟩⟩

theorem plain_of_isDigit {c : Char} (h : c.isDigit = true) : Plain c :=
  plain_of_class (p := Char.isDigit) (by decide) h

theorem plain_of_isNamePart {c : Char} (h : isNamePart c = true) : Plain c :=
  plain_of_class (p := isNamePart) (by decide +kernel) h

theorem plain_of_isBlank {c : Char} (h : Text.isBlank c = true) : Plain c :=
  plain_of_class (p := Text.isBlank) (by decide) h

/-- The scanner passes over a token that is not a brace. -/
theorem Passes.of_writes {source : List Char} {t : Token} (h : Writes source t)
    (hOpening : t ≠ .unknown '{') (hClosing : t ≠ .unknown '}') : Passes source := by
  cases h with
  | word hName =>
    exact Passes.of_plain fun c hc => plain_of_isNamePart ((isWord_iff.mpr hName).isNamePart c hc)
  | numeral _ hWhole hFraction =>
    refine Passes.of_plain fun c hc => ?_
    rcases digit_or_point hWhole hFraction hc with hDigit | rfl
    · exact plain_of_isDigit hDigit
    · decide
  | literal hQuote hQuoted =>
    intro depth tail
    rw [List.cons_append, closing?_quote hQuote, List.append_assoc, List.singleton_append,
      closing?_literal hQuoted (quote_ne_backslash hQuote), map_inFront_append]
    rfl
  | symbol hSymbol => exact Passes.of_plain (plain_of_symbol hSymbol)
  | stray hStray =>
    refine Passes.single ⟨?_, ?_, hStray.quote⟩
    · rintro rfl
      exact hOpening rfl
    · rintro rfl
      exact hClosing rfl

/-! ## Braces -/

/-- How many braces are open after a token; none if it closes one that is not open. -/
def braceStep (depth : Nat) : Token → Option Nat
  | .unknown '{' => some (depth + 1)
  | .unknown '}' => if depth = 0 then none else some (depth - 1)
  | _ => some depth

/-- How many braces are open after a run of tokens; none if it closes one that is not open. -/
def bracesAfter? (depth : Nat) (ts : List Token) : Option Nat := ts.foldlM braceStep depth

/-- Every brace among the tokens is closed, and none is closed that is not open. -/
def BracesMatch (ts : List Token) : Prop := bracesAfter? 0 ts = some 0

instance (ts : List Token) : Decidable (BracesMatch ts) :=
  inferInstanceAs (Decidable (bracesAfter? 0 ts = some 0))

theorem bracesAfter?_cons (depth : Nat) (t : Token) (ts : List Token) :
    bracesAfter? depth (t :: ts)
      = (braceStep depth t).bind fun next => bracesAfter? next ts := rfl

theorem braceStep_of_not_brace {t : Token} (depth : Nat) (hOpening : t ≠ .unknown '{')
    (hClosing : t ≠ .unknown '}') : braceStep depth t = some depth := by
  unfold braceStep
  split
  · exact absurd rfl hOpening
  · exact absurd rfl hClosing
  · rfl

theorem eq_of_braceStep_none {t : Token} {depth : Nat} (h : braceStep depth t = none) :
    t = .unknown '}' ∧ depth = 0 := by
  unfold braceStep at h
  split at h
  · cases h
  · split at h
    · rename_i hDepth
      exact ⟨rfl, hDepth⟩
    · cases h
  · cases h

/-- A token that is no other one is its character. -/
theorem eq_of_next?_unknown {c b : Char} {rest after : List Char}
    (hBlank : Text.isBlank c = false) (h : next? c rest = some (.unknown b, after)) :
    c = b ∧ after = rest := by
  obtain ⟨source, hText, hWrites⟩ := exists_writes_of_next? hBlank h
  obtain rfl := hWrites.eq_of_unknown
  obtain ⟨rfl, rfl⟩ := List.cons.inj hText
  exact ⟨rfl, rfl⟩

/-- The scanner passes over a token and counts it if it is a brace. -/
theorem closing?_of_next? {c : Char} {rest after : List Char} {t : Token} {depth next : Nat}
    (hBlank : Text.isBlank c = false) (h : next? c rest = some (t, after))
    (hStep : braceStep depth t = some next) :
    ∃ used, c :: rest = used ++ after ∧ ∀ tail, closing? depth none (used ++ tail)
      = (closing? next none tail).map (inFront used) := by
  by_cases hOpening : t = .unknown '{'
  · subst hOpening
    obtain ⟨rfl, rfl⟩ := eq_of_next?_unknown hBlank h
    cases hStep
    exact ⟨['{'], rfl, fun tail => closing?_opening depth tail⟩
  · by_cases hClosing : t = .unknown '}'
    · subst hClosing
      obtain ⟨rfl, rfl⟩ := eq_of_next?_unknown hBlank h
      cases depth with
      | zero => cases hStep
      | succ depth =>
        cases hStep
        exact ⟨['}'], rfl, fun tail => closing?_nested depth tail⟩
    · rw [braceStep_of_not_brace depth hOpening hClosing] at hStep
      cases hStep
      obtain ⟨used, hUsed, hWrites⟩ := exists_writes_of_next? hBlank h
      exact ⟨used, hUsed, Passes.of_writes hWrites hOpening hClosing depth⟩

/-- The scanner passes over tokens in front of what is left, and counts the braces among them. -/
theorem closing?_of_scansTo {left text : List Char} {ts : List Token} {depth next : Nat}
    (h : ScansTo left text ts) (hBraces : bracesAfter? depth ts = some next) :
    ∃ used, text = used ++ left ∧ ∀ tail, closing? depth none (used ++ tail)
      = (closing? next none tail).map (inFront used) := by
  induction h generalizing depth with
  | nil =>
    cases hBraces
    exact ⟨[], rfl, fun tail => (map_inFront_nil _).symm⟩
  | @blank c rest ts hBlank _ ih =>
    obtain ⟨used, rfl, hPasses⟩ := ih hBraces
    refine ⟨c :: used, rfl, fun tail => ?_⟩
    rw [List.cons_append, closing?_plain (plain_of_isBlank hBlank), hPasses, map_inFront_append]
    rfl
  | token hBlank hNext _ ih =>
    rw [bracesAfter?_cons] at hBraces
    obtain ⟨between, hStep, hRest⟩ := Option.bind_eq_some_iff.mp hBraces
    obtain ⟨piece, hPiece, hPassesPiece⟩ := closing?_of_next? hBlank hNext hStep
    obtain ⟨used, rfl, hPasses⟩ := ih hRest
    refine ⟨piece ++ used, ?_, fun tail => ?_⟩
    · rw [hPiece, List.append_assoc]
    · rw [List.append_assoc, hPassesPiece, hPasses, map_inFront_append]

/-- The scanner passes over a text that consists of tokens and counts the braces among them. -/
theorem closing?_of_scans {text : List Char} {ts : List Token} {depth next : Nat}
    (h : Scans text ts) (hBraces : bracesAfter? depth ts = some next) (tail : List Char) :
    closing? depth none (text ++ tail) = (closing? next none tail).map (inFront text) := by
  obtain ⟨used, hText, hPasses⟩ := closing?_of_scansTo h.scansTo hBraces
  rw [List.append_nil] at hText
  rw [hText]
  exact hPasses tail

/-- A brace that is closed and not open among tokens ends the placeholder there. -/
theorem closing?_before {left text : List Char} {ts : List Token} {depth : Nat}
    (h : ScansTo left text ts) (hBraces : bracesAfter? depth ts = none) :
    ∃ source more, closing? depth none text = some (source, more ++ left) := by
  induction h generalizing depth with
  | nil => cases hBraces
  | @blank c rest ts hBlank _ ih =>
    obtain ⟨source, more, hFound⟩ := ih hBraces
    refine ⟨c :: source, more, ?_⟩
    rw [closing?_plain (plain_of_isBlank hBlank), hFound]
    rfl
  | @token c rest after t ts hBlank hNext hLeft ih =>
    rw [bracesAfter?_cons] at hBraces
    cases hStep : braceStep depth t with
    | none =>
      obtain ⟨rfl, rfl⟩ := eq_of_braceStep_none hStep
      obtain ⟨rfl, rfl⟩ := eq_of_next?_unknown hBlank hNext
      obtain ⟨more, rfl⟩ := hLeft.suffix
      exact ⟨[], more, closing?_end _⟩
    | some next =>
      rw [hStep] at hBraces
      obtain ⟨piece, hPiece, hPasses⟩ := closing?_of_next? hBlank hNext hStep
      obtain ⟨source, more, hFound⟩ := ih hBraces
      refine ⟨piece ++ source, more, ?_⟩
      rw [hPiece, hPasses, hFound]
      rfl

/-- The scanner passes over a text that consists of tokens other than braces. -/
theorem passes_of_scans {text : List Char} {ts : List Token} (h : Scans text ts)
    (hBraces : ∀ t ∈ ts, t ≠ .unknown '{' ∧ t ≠ .unknown '}') : Passes text := by
  intro depth tail
  refine closing?_of_scans h ?_ tail
  clear h
  induction ts with
  | nil => rfl
  | cons t ts ih =>
    obtain ⟨⟨hOpening, hClosing⟩, hRest⟩ := List.forall_mem_cons.mp hBraces
    rw [bracesAfter?_cons, braceStep_of_not_brace depth hOpening hClosing]
    exact ih hRest

end TextTemplate.Piece
