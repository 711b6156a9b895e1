import TextTemplate.Proofs.Parser.Soundness
import TextTemplate.Proofs.Reader.Spans

/-!
# The pieces of a text

`Cut` says how a text is cut, without a bound on steps: literal text in runs as long as possible,
and placeholders.

* `cut_pieces`, `pieces_of_cut`: `pieces` cuts a text in this way, and in no other.
* `Part.exists_lexemes_of_parse`: what is known of a placeholder that is read.
-/

namespace TextTemplate.Piece

/-- Does a placeholder open at the start? -/
def opens : List Char → Bool
  | '$' :: '{' :: _ => true
  | _ => false

/-- No placeholder opens inside of the text. -/
def Literal (text : List Char) : Prop := ∀ before after, text ≠ before ++ '$' :: '{' :: after

/-- Literal text ends here: at the end or where a placeholder opens. -/
def EndsText (rest : List Char) : Prop := rest = [] ∨ opens rest = true

/-- The pieces of a text that starts at a position. -/
inductive Cut : Nat → List Char → List Piece → Prop
  | nil (position : Nat) : Cut position [] []
  | text {position : Nat} {s rest : List Char} {ps : List Piece} :
      s ≠ [] → Literal s → EndsText rest → Cut (position + Text.byteLength s) rest ps →
      Cut position (s ++ rest) (.text s :: ps)
  | placeholder {position : Nat} {rest source after : List Char} {ps : List Piece} :
      closing? 0 none rest = some (source, after) →
      Cut (position + 2 + Text.byteLength source + 1) after ps →
      Cut position ('$' :: '{' :: rest) (.placeholder (position + 2) source :: ps)
  | unclosed {position : Nat} {rest : List Char} :
      closing? 0 none rest = none → Cut position ('$' :: '{' :: rest) [.unclosed position]

/-! ## Literal text -/

theorem eq_of_opens {text : List Char} (h : opens text = true) :
    ∃ rest, text = '$' :: '{' :: rest := by
  unfold opens at h
  split at h
  · exact ⟨_, rfl⟩
  · cases h

theorem Literal.of_cons {c : Char} {s : List Char} (h : Literal (c :: s)) : Literal s :=
  fun before after hEq => h (c :: before) after (by rw [hEq, List.cons_append])

theorem Literal.cons {c : Char} {s rest : List Char} (hOpens : opens (c :: (s ++ rest)) = false)
    (h : Literal s) : Literal (c :: s) := by
  intro before after hEq
  cases before with
  | nil =>
    obtain ⟨rfl, rfl⟩ := List.cons.inj hEq
    cases hOpens
  | cons d before => exact h before after (List.cons.inj hEq).2

/-- Inside of literal text no placeholder opens, whatever it is followed by. -/
theorem Literal.not_opens {c : Char} {s rest : List Char} (h : Literal (c :: s))
    (hRest : EndsText rest) : opens (c :: (s ++ rest)) = false := by
  cases hOpens : opens (c :: (s ++ rest)) with
  | false => rfl
  | true =>
    exfalso
    obtain ⟨after, hEq⟩ := eq_of_opens hOpens
    obtain ⟨rfl, hTail⟩ := List.cons.inj hEq
    cases s with
    | nil =>
      rcases hRest with rfl | hRest
      · cases hTail
      · obtain ⟨more, rfl⟩ := eq_of_opens hRest
        cases hTail
    | cons d s =>
      obtain ⟨rfl, -⟩ := List.cons.inj hTail
      exact h [] s rfl

/-- Literal text does not start where literal text ends. -/
theorem Literal.not_endsText {s rest : List Char} (h : Literal s) (hSome : s ≠ [])
    (hRest : EndsText rest) : ¬ EndsText (s ++ rest) := by
  cases s with
  | nil => exact absurd rfl hSome
  | cons c s =>
    rintro (hNil | hOpens)
    · cases hNil
    · rw [List.cons_append, h.not_opens hRest] at hOpens
      cases hOpens

/-! ## Placeholders -/

/-- The end of a placeholder is a brace behind what it holds. -/
theorem eq_of_closing? {depth : Nat} {quote : Option Char} {text source after : List Char}
    (h : closing? depth quote text = some (source, after)) : text = source ++ '}' :: after := by
  fun_induction closing? depth quote text generalizing source with
  | case1 | case2 => cases h
  | case5 =>
    rename_i hEnd
    cases h
    rw [hEnd.1, List.nil_append]
  | case3 | case4 | case6 =>
    rename_i ih
    obtain ⟨⟨inner, rest⟩, hInner, hEq⟩ := Option.map_eq_some_iff.mp h
    cases hEq
    rw [ih hInner]
    rfl

/-! ## Steps of the cutter -/

theorem piecesFrom_nil (fuel position : Nat) : piecesFrom fuel position [] = [] := by
  cases fuel <;> rfl

theorem piecesFrom_opens (fuel position : Nat) (rest : List Char) :
    piecesFrom (fuel + 1) position ('$' :: '{' :: rest)
      = match closing? 0 none rest with
        | some (source, after) => .placeholder (position + 2) source ::
          piecesFrom fuel (position + 2 + Text.byteLength source + 1) after
        | none => [.unclosed position] := rfl

theorem piecesFrom_literal {c : Char} {rest : List Char} (h : opens (c :: rest) = false)
    (fuel position : Nat) : piecesFrom (fuel + 1) position (c :: rest)
      = consText c (piecesFrom fuel (position + c.utf8Size) rest) := by
  rw [piecesFrom]
  rintro rest' rfl rfl
  cases h

/-! ## Cutting -/

theorem Cut.consText {position : Nat} {c : Char} {rest : List Char} {ps : List Piece}
    (hOpens : opens (c :: rest) = false) (h : Cut (position + c.utf8Size) rest ps) :
    Cut position (c :: rest) (consText c ps) := by
  have hLength (s : List Char) : position + Text.byteLength (c :: s)
      = position + c.utf8Size + Text.byteLength s := by
    rw [Text.byteLength, Nat.add_assoc]
  have hSingle (hRest : EndsText rest) (hCut : Cut (position + c.utf8Size) rest ps) :
      Cut position (c :: rest) (.text [c] :: ps) := by
    have hNil : Literal [] := by simp [Literal]
    have hLiteral : Literal [c] := Literal.cons hOpens hNil
    have hOne : position + Text.byteLength [c] = position + c.utf8Size := hLength []
    rw [← hOne] at hCut
    exact .text (by simp) hLiteral hRest hCut
  cases h with
  | nil => exact hSingle (Or.inl rfl) (.nil _)
  | text hSome hLiteral hEnds hCut =>
    rw [← hLength] at hCut
    exact .text (by simp) (Literal.cons hOpens hLiteral) hEnds hCut
  | placeholder hClosing hCut => exact hSingle (Or.inr rfl) (.placeholder hClosing hCut)
  | unclosed hClosing => exact hSingle (Or.inr rfl) (.unclosed hClosing)

theorem cut_piecesFrom {fuel : Nat} (position : Nat) {text : List Char}
    (hFuel : text.length ≤ fuel) : Cut position text (piecesFrom fuel position text) := by
  induction fuel generalizing position text with
  | zero =>
    obtain rfl := List.eq_nil_of_length_eq_zero (Nat.le_zero.mp hFuel)
    exact .nil position
  | succ fuel ih =>
    cases text with
    | nil => exact .nil position
    | cons c rest =>
      rw [List.length_cons] at hFuel
      cases hOpens : opens (c :: rest) with
      | false =>
        rw [piecesFrom_literal hOpens]
        exact (ih _ (by omega)).consText hOpens
      | true =>
        obtain ⟨rest', hEq⟩ := eq_of_opens hOpens
        rw [hEq, piecesFrom_opens]
        cases hClosing : closing? 0 none rest' with
        | none => exact .unclosed hClosing
        | some found =>
          obtain ⟨source, after⟩ := found
          refine .placeholder hClosing (ih _ ?_)
          obtain ⟨-, rfl⟩ := List.cons.inj hEq
          rw [eq_of_closing? hClosing] at hFuel
          simp only [List.length_cons, List.length_append] at hFuel
          omega

/-- The pieces of a text are a cut of it. -/
theorem cut_pieces (text : List Char) : Cut 0 text (pieces text) :=
  cut_piecesFrom 0 (Nat.le_refl _)

/-- Behind literal text comes no further text. -/
theorem consText_of_ends {fuel position : Nat} {rest : List Char} {ps : List Piece} {c : Char}
    (hEnds : EndsText rest) (h : piecesFrom fuel position rest = ps) :
    consText c ps = .text [c] :: ps := by
  subst h
  rcases hEnds with rfl | hOpens
  · rw [piecesFrom_nil]
    rfl
  · obtain ⟨more, rfl⟩ := eq_of_opens hOpens
    cases fuel with
    | zero => rfl
    | succ fuel =>
      rw [piecesFrom_opens]
      split <;> rfl

theorem piecesFrom_text {s rest : List Char} {ps : List Piece} {fuel : Nat} (position : Nat)
    (hSome : s ≠ []) (hLiteral : Literal s) (hEnds : EndsText rest)
    (hFuel : (s ++ rest).length ≤ fuel)
    (hRest : ∀ fuel', rest.length ≤ fuel' →
      piecesFrom fuel' (position + Text.byteLength s) rest = ps) :
    piecesFrom fuel position (s ++ rest) = .text s :: ps := by
  induction s generalizing fuel position with
  | nil => exact absurd rfl hSome
  | cons c s ih =>
    rw [List.cons_append, List.length_cons] at hFuel
    obtain ⟨less, rfl⟩ : ∃ less, fuel = less + 1 := ⟨fuel - 1, by omega⟩
    rw [List.cons_append, piecesFrom_literal (hLiteral.not_opens hEnds)]
    rw [Text.byteLength, ← Nat.add_assoc] at hRest
    cases s with
    | nil =>
      have hMore := hRest less (by simpa using hFuel)
      rw [Text.byteLength, Nat.add_zero] at hMore
      rw [List.nil_append, hMore, consText_of_ends hEnds hMore]
    | cons d s =>
      rw [ih _ (by simp) hLiteral.of_cons (by omega) hRest]
      rfl

theorem piecesFrom_of_cut {position : Nat} {text : List Char} {ps : List Piece}
    (h : Cut position text ps) {fuel : Nat} (hFuel : text.length ≤ fuel) :
    piecesFrom fuel position text = ps := by
  induction h generalizing fuel with
  | nil => exact piecesFrom_nil _ _
  | text hSome hLiteral hEnds _ ih =>
    exact piecesFrom_text _ hSome hLiteral hEnds hFuel fun fuel' hLess => ih hLess
  | placeholder hClosing _ ih =>
    rw [eq_of_closing? hClosing] at hFuel
    simp only [List.length_cons, List.length_append] at hFuel
    cases fuel with
    | zero => omega
    | succ fuel =>
      rw [piecesFrom_opens, hClosing]
      dsimp only
      rw [ih (by omega)]
  | unclosed hClosing =>
    cases fuel with
    | zero => cases hFuel
    | succ fuel => rw [piecesFrom_opens, hClosing]

/-- A text has one cut. -/
theorem pieces_of_cut {text : List Char} {ps : List Piece} (h : Cut 0 text ps) :
    pieces text = ps := piecesFrom_of_cut h (Nat.le_refl _)

end TextTemplate.Piece

namespace TextTemplate

theorem mapM_cons_eq_ok {α β ε : Type} {f : α → Except ε β} {a : α} {as : List α} {bs : List β} :
    (a :: as).mapM f = .ok bs ↔ ∃ b rest, f a = .ok b ∧ as.mapM f = .ok rest ∧ bs = b :: rest := by
  rw [List.mapM_cons]
  cases f a with
  | error e => simp [bind, Except.bind]
  | ok b =>
    cases as.mapM f with
    | error e => simp [bind, Except.bind]
    | ok rest => simp [bind, Except.bind, pure, Except.pure, eq_comm]

theorem exists_of_mem_mapM {α β ε : Type} {f : α → Except ε β} {as : List α} {bs : List β}
    (h : as.mapM f = .ok bs) : ∀ b ∈ bs, ∃ a ∈ as, f a = .ok b := by
  induction as generalizing bs with
  | nil =>
    cases h
    simp
  | cons a as ih =>
    obtain ⟨b, rest, hHead, hRest, rfl⟩ := mapM_cons_eq_ok.mp h
    intro c hc
    rcases List.mem_cons.mp hc with rfl | hc
    · exact ⟨a, List.mem_cons_self, hHead⟩
    · obtain ⟨a', hMem, hEq⟩ := ih hRest c hc
      exact ⟨a', List.mem_cons_of_mem _ hMem, hEq⟩

/-- The first element that fails gives the error. -/
theorem exists_first_of_mapM_error {α β ε : Type} {f : α → Except ε β} {as : List α} {e : ε}
    (h : as.mapM f = .error e) : ∃ before a after, as = before ++ a :: after
      ∧ (∀ a ∈ before, ∃ b, f a = .ok b) ∧ f a = .error e := by
  induction as with
  | nil => cases h
  | cons a as ih =>
    rw [List.mapM_cons] at h
    cases hHead : f a with
    | error e' =>
      rw [hHead] at h
      cases h
      exact ⟨[], a, as, rfl, by simp, hHead⟩
    | ok b =>
      rw [hHead] at h
      cases hTail : as.mapM f with
      | error e' =>
        rw [hTail] at h
        cases h
        obtain ⟨before, a', after, rfl, hBefore, hError⟩ := ih hTail
        exact ⟨a :: before, a', after, rfl, List.forall_mem_cons.mpr ⟨⟨b, hHead⟩, hBefore⟩, hError⟩
      | ok bs =>
        rw [hTail] at h
        cases h

theorem exists_of_mapM_error {α β ε : Type} {f : α → Except ε β} {as : List α} {e : ε}
    (h : as.mapM f = .error e) : ∃ a ∈ as, f a = .error e := by
  obtain ⟨before, a, after, rfl, -, hError⟩ := exists_first_of_mapM_error h
  exact ⟨a, by simp, hError⟩

theorem exists_of_isOk {α ε : Type} {x : Except ε α} (h : x.isOk = true) : ∃ a, x = .ok a := by
  cases x with
  | error e => cases h
  | ok a => exact ⟨a, rfl⟩

theorem exists_of_not_isOk {α ε : Type} {x : Except ε α} (h : x.isOk = false) :
    ∃ e, x = .error e := by
  cases x with
  | error e => exact ⟨e, rfl⟩
  | ok a => cases h

/-- An expression that is read consists of tokens from which its part is derived. -/
theorem Part.exists_lexemes_of_parse {source : List Char} {base : Nat} {p : Part}
    (h : parse source base = .ok p) :
    ∃ body last, Lexer.lexemes source = .ok (body ++ [⟨.finish, last⟩])
      ∧ Lexer.Scans source (Parser.tokens body)
      ∧ Grammar.Derives Parser.Skipped (Parser.tokens body) (.ternary p) := by
  unfold parse at h
  split at h
  · cases h
  · cases hLexemes : Lexer.lexemes source with
    | error f =>
      rw [hLexemes] at h
      cases h
    | ok ls =>
      obtain ⟨body, last, rfl, hScans⟩ := Lexer.scans_of_lexemes hLexemes
      rw [hLexemes] at h
      dsimp only at h
      cases hRead : Parser.expression (body ++ [⟨.finish, last⟩]) with
      | error f =>
        rw [hRead] at h
        cases h
      | ok q =>
        rw [hRead] at h
        cases h
        have hFinish : .finish ∉ Parser.tokens body := fun hMem =>
          Lexer.lexed_of_scans hScans _ hMem
        exact ⟨body, last, rfl, hScans,
          Parser.expression_derives (Parser.tokens_append _ _) hFinish hRead⟩

namespace Template

theorem parse_eq (raw : String) : parse raw
    = ((Piece.pieces raw.toList).mapM (Part.ofPiece raw.toList)).map fun parts => ⟨raw, parts⟩ := by
  unfold parse
  cases (Piece.pieces raw.toList).mapM (Part.ofPiece raw.toList) <;> rfl

theorem parse_eq_ok {raw : String} {t : Template} (h : parse raw = .ok t) :
    (Piece.pieces raw.toList).mapM (Part.ofPiece raw.toList) = .ok t.parts := by
  rw [parse_eq] at h
  cases hParts : (Piece.pieces raw.toList).mapM (Part.ofPiece raw.toList) with
  | error e =>
    rw [hParts] at h
    cases h
  | ok parts =>
    rw [hParts] at h
    cases h
    rfl

theorem parse_eq_error {raw : String} {e : SyntaxError} (h : parse raw = .error e) :
    (Piece.pieces raw.toList).mapM (Part.ofPiece raw.toList) = .error e := by
  rw [parse_eq] at h
  cases hParts : (Piece.pieces raw.toList).mapM (Part.ofPiece raw.toList) with
  | error e' =>
    rw [hParts] at h
    cases h
    rfl
  | ok parts =>
    rw [hParts] at h
    cases h

end Template

end TextTemplate
