import TextTemplate.Proofs.Parser.Steps

/-!
# Faults of the parser

What the parser reports is a fault of its own, put at the start of what is left to be read at some
point. It does not report a string literal that is not closed, which only the lexer can find.

* `blamesWith`: the statement for all readers, by induction on the bound on steps.
* `blames_of_expression`: the statement for a whole expression.
-/

namespace TextTemplate.Parser

open Grammar

/-- A fault that the parser finds among the lexemes. -/
structure Blames (lexemes : List Lexeme) (f : LocatedFault) : Prop where
  fault : f.fault ≠ .unclosedText
  position : ∃ rest, rest <:+ lexemes ∧ f.position = position rest

/-- If a reader fails, it blames one of the lexemes. -/
def BlamesIn {α : Type} (lexemes : List Lexeme) (p : Parsed α) : Prop :=
  ∀ f, p = .fault f → Blames lexemes f

section Steps

variable {α β : Type} {lexemes rest : List Lexeme}

theorem BlamesIn.done (a : α) : BlamesIn lexemes (Parsed.done a rest) := by
  intro f h
  cases h

theorem BlamesIn.fault {fault : SyntaxFault} (hFault : fault ≠ .unclosedText)
    (hRest : rest <:+ lexemes) : BlamesIn lexemes (faultAt fault rest : Parsed α) := by
  intro f h
  cases h
  exact ⟨hFault, rest, hRest, rfl⟩

theorem BlamesIn.mono {p : Parsed α} (h : BlamesIn rest p) (hRest : rest <:+ lexemes) :
    BlamesIn lexemes p := by
  intro f hf
  obtain ⟨less, hLess, hPosition⟩ := (h f hf).position
  exact ⟨(h f hf).fault, less, hLess.trans hRest, hPosition⟩

theorem BlamesIn.andThen {p : Parsed α} {next : α → List Lexeme → Parsed β}
    (h : BlamesIn lexemes p) (hNext : ∀ a rest, p = .done a rest → BlamesIn lexemes (next a rest)) :
    BlamesIn lexemes (p.andThen next) := by
  cases p with
  | done a rest => exact hNext a rest rfl
  | fault f =>
    intro f' hf
    cases hf
    exact h f rfl
  | exhausted =>
    intro f hf
    cases hf

end Steps

theorem Reads.suffix {lexemes rest : List Lexeme} {φ : Phrase} (h : Reads lexemes rest φ) :
    rest <:+ lexemes := by
  obtain ⟨used, rfl, -⟩ := h
  exact List.suffix_append used rest

theorem coalesceOperand_suffix {fuel : Nat} {lexemes rest : List Lexeme} {p : Part}
    (h : coalesceOperand fuel lexemes = .done p rest) : rest <:+ lexemes := by
  rcases (readsWith fuel).coalesceOperand h with hReads | ⟨-, hFrom⟩
  · exact hReads.suffix
  · obtain ⟨passed, found, after, rfl, rfl, -, -⟩ := coalesceFrom?_eq_some_iff.mp hFrom
    exact List.suffix_append _ _

theorem expect_blames {t : Token} {what : String} (lexemes : List Lexeme) :
    BlamesIn lexemes (expect t what lexemes) := by
  unfold expect
  split
  · exact .done ()
  · exact .fault (by simp) (List.suffix_refl _)

theorem segments_blames (lexemes : List Lexeme) : BlamesIn lexemes (segments lexemes) := by
  have hTwo (a b : Lexeme) (l : List Lexeme) : l <:+ a :: b :: l :=
    (List.suffix_cons b l).trans (List.suffix_cons a (b :: l))
  fun_induction segments lexemes with
  | case1 | case11 => exact .done _
  | case2 | case5 | case6 => exact .fault (by simp) (List.nil_suffix)
  | case4 | case9 | case10 => exact .fault (by simp) (List.suffix_cons _ _)
  | case8 => exact .fault (by simp) (hTwo _ _ _)
  | case3 dot _ field after _ _ ih =>
    exact (ih.mono (hTwo dot field after)).andThen fun _ _ _ => .done _
  | case7 opening _ index _ _ _ _ closing after _ ih =>
    have hSuffix := (hTwo index closing after).trans (List.suffix_cons opening _)
    exact (ih.mono hSuffix).andThen fun _ _ _ => .done _

theorem forEachOf_error {args : List Part} {fault : SyntaxFault}
    (h : forEachOf args = .error fault) : fault ≠ .unclosedText := by
  unfold forEachOf at h
  split at h
  · split at h <;> cases h
    simp
  · split at h
    · split at h <;> cases h
      simp
    · cases h
      simp
  · cases h
    simp

theorem callOf_blames {name : String} {args : List Part} {lexemes opening rest : List Lexeme}
    (hOpening : opening <:+ lexemes) :
    BlamesIn lexemes (callOf name (position opening) args rest) := by
  unfold callOf
  split
  · split
    · exact .done _
    · rename_i fault hArgs
      exact .fault (forEachOf_error hArgs) hOpening
  · exact .done _

/-- All readers blame lexemes that they were given. -/
structure BlamesWith (fuel : Nat) : Prop where
  ternary (lexemes : List Lexeme) : BlamesIn lexemes (ternary fuel lexemes)
  coalesce (lexemes : List Lexeme) : BlamesIn lexemes (coalesce fuel lexemes)
  coalesceOperand (lexemes : List Lexeme) : BlamesIn lexemes (coalesceOperand fuel lexemes)
  comparison (lexemes : List Lexeme) : BlamesIn lexemes (comparison fuel lexemes)
  operand (lexemes : List Lexeme) : BlamesIn lexemes (operand fuel lexemes)
  arguments (name : String) (lexemes : List Lexeme) :
    BlamesIn lexemes (arguments name fuel lexemes)

section Step

variable {fuel : Nat} (lexemes : List Lexeme)

theorem BlamesWith.ternary_step (ih : BlamesWith fuel) :
    BlamesIn lexemes (Parser.ternary (fuel + 1) lexemes) := by
  rw [Parser.ternary]
  refine (ih.coalesce lexemes).andThen fun condition rest hCondition => ?_
  have hRest := ((readsWith fuel).coalesce hCondition).suffix
  split
  · have hTail := (List.tail_suffix rest).trans hRest
    refine ((ih.ternary rest.tail).mono hTail).andThen fun yes afterYes hYes => ?_
    have hAfterYes := (((readsWith fuel).ternary hYes).suffix).trans hTail
    refine ((expect_blames afterYes).mono hAfterYes).andThen fun _ afterColon hColon => ?_
    obtain ⟨-, rfl⟩ := expect_eq_done hColon
    have hAfterColon := (List.tail_suffix afterYes).trans hAfterYes
    exact ((ih.ternary afterYes.tail).mono hAfterColon).andThen fun _ _ _ => .done _
  · exact .done _

theorem BlamesWith.coalesce_step (ih : BlamesWith fuel) :
    BlamesIn lexemes (Parser.coalesce (fuel + 1) lexemes) := by
  rw [Parser.coalesce]
  refine (ih.coalesceOperand lexemes).andThen fun left rest hLeft => ?_
  split
  · have hTail := (List.tail_suffix rest).trans (coalesceOperand_suffix hLeft)
    exact ((ih.coalesce rest.tail).mono hTail).andThen fun _ _ _ => .done _
  · exact .done _

theorem BlamesWith.coalesceOperand_step (ih : BlamesWith fuel) :
    BlamesIn lexemes (Parser.coalesceOperand (fuel + 1) lexemes) := by
  have hComparison := ih.comparison lexemes
  rw [Parser.coalesceOperand]
  split
  · split
    · exact .done _
    · split <;> exact .done _
  · rename_i hFault
    rw [hFault] at hComparison
    split
    · exact .done _
    · exact hComparison
  · intro f hf
    cases hf

theorem BlamesWith.comparison_step (ih : BlamesWith fuel) :
    BlamesIn lexemes (Parser.comparison (fuel + 1) lexemes) := by
  rw [Parser.comparison]
  refine (ih.operand lexemes).andThen fun left rest hLeft => ?_
  split
  · have hTail := (List.tail_suffix rest).trans ((readsWith fuel).operand hLeft).suffix
    exact ((ih.operand rest.tail).mono hTail).andThen fun _ _ _ => .done _
  · exact .done _

theorem BlamesWith.operand_step (ih : BlamesWith fuel) :
    BlamesIn lexemes (Parser.operand (fuel + 1) lexemes) := by
  have hTail := List.tail_suffix lexemes
  have hInside := (List.tail_suffix lexemes.tail).trans hTail
  rw [Parser.operand]
  split
  · refine ((ih.ternary lexemes.tail).mono hTail).andThen fun part rest hPart => ?_
    have hRest := ((readsWith fuel).ternary hPart).suffix.trans hTail
    exact ((expect_blames rest).mono hRest).andThen fun _ _ _ => .done _
  · exact .done _
  · split
    · exact .done _
    · exact .fault (by simp) hTail
  · exact .done _
  · exact .done _
  · exact .done _
  · split
    · dsimp only
      split
      · exact callOf_blames hTail
      · refine ((ih.arguments _ lexemes.tail.tail).mono hInside).andThen fun args rest _ => ?_
        exact callOf_blames hTail
    · exact ((segments_blames lexemes.tail).mono hTail).andThen fun _ _ _ => .done _
  · exact .fault (by simp) (List.suffix_refl _)
  · exact .fault (by simp) (List.suffix_refl _)

theorem BlamesWith.arguments_step (ih : BlamesWith fuel) (name : String) :
    BlamesIn lexemes (Parser.arguments name (fuel + 1) lexemes) := by
  rw [Parser.arguments]
  refine (ih.ternary lexemes).andThen fun arg rest hArg => ?_
  have hRest := ((readsWith fuel).ternary hArg).suffix
  split
  · have hTail := (List.tail_suffix rest).trans hRest
    exact ((ih.arguments name rest.tail).mono hTail).andThen fun _ _ _ => .done _
  · exact .done _
  · exact .fault (by simp) hRest
  · exact .fault (by simp) hRest

end Step

theorem blamesWith (fuel : Nat) : BlamesWith fuel := by
  induction fuel with
  | zero =>
    constructor
    all_goals
      intros
      intro f hf
      cases hf
  | succ fuel ih =>
    exact ⟨ih.ternary_step, ih.coalesce_step, ih.coalesceOperand_step, ih.comparison_step,
      ih.operand_step, fun name lexemes => ih.arguments_step lexemes name⟩

/-- An expression that cannot be read fails for a reason of the parser, at one of its lexemes. -/
theorem blames_of_expression {lexemes : List Lexeme} {f : LocatedFault}
    (h : expression lexemes = .error f) : Blames lexemes f := by
  have hBlames := (blamesWith (fuelFor lexemes)).ternary lexemes
  unfold expression at h
  split at h
  · rename_i part rest hTernary
    split at h
    · cases h
    · cases h
      exact ⟨by simp, rest, ((readsWith _).ternary hTernary).suffix, rfl⟩
  · rename_i f' hTernary
    cases h
    exact hBlames f hTernary
  · cases h
    exact ⟨by simp, lexemes, List.suffix_refl _, rfl⟩

end TextTemplate.Parser
