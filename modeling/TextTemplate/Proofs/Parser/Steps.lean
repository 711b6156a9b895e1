import TextTemplate.Proofs.Parser.Soundness

/-!
# The bound on steps is enough

A reader that calls another one at the same place calls a tighter one, and there are six of them;
between a reader and the next call of the same one at least one lexeme is used up. So six steps for
each lexeme are enough.

* `suffices_of_steps`: the statement for all readers.
* `ternary_fuelFor_ne_exhausted`: a whole expression is never given up for want of steps.
-/

namespace TextTemplate.Parser

open Grammar

@[simp] theorem fault_andThen {α β : Type} (f : LocatedFault)
    (next : α → List Lexeme → Parsed β) : (Parsed.fault f).andThen next = .fault f := rfl

@[simp] theorem faultAt_ne_exhausted {α : Type} (fault : SyntaxFault) (lexemes : List Lexeme) :
    (faultAt fault lexemes : Parsed α) ≠ .exhausted := by
  simp [faultAt]

theorem andThen_ne_exhausted {α β : Type} {p : Parsed α} {next : α → List Lexeme → Parsed β}
    (hp : p ≠ .exhausted) (hNext : ∀ a rest, p = .done a rest → next a rest ≠ .exhausted) :
    p.andThen next ≠ .exhausted := by
  cases p with
  | done a rest => exact hNext a rest rfl
  | fault f => simp
  | exhausted => exact absurd rfl hp

theorem segments_ne_exhausted (lexemes : List Lexeme) : segments lexemes ≠ .exhausted := by
  fun_induction segments lexemes with
  | case3 _ _ _ _ _ _ ih => exact andThen_ne_exhausted ih fun _ _ _ => by simp
  | case7 _ _ _ _ _ _ _ _ _ _ ih => exact andThen_ne_exhausted ih fun _ _ _ => by simp
  | _ => simp

theorem callOf_ne_exhausted (name : String) (opening : Nat) (args : List Part)
    (rest : List Lexeme) : callOf name opening args rest ≠ .exhausted := by
  unfold callOf
  split
  · split <;> simp
  · simp

theorem expect_ne_exhausted (t : Token) (what : String) (lexemes : List Lexeme) :
    expect t what lexemes ≠ .exhausted := by
  unfold expect
  split <;> simp

/-- A reader uses up at least one lexeme. -/
theorem Reads.length_lt {lexemes rest : List Lexeme} {φ : Phrase} (h : Reads lexemes rest φ) :
    rest.length < lexemes.length := by
  obtain ⟨used, rfl, hUsed⟩ := h
  have hNonempty : used ≠ [] := by
    rintro rfl
    exact hUsed.ne_nil rfl
  have := List.length_pos_iff.mpr hNonempty
  rw [List.length_append]
  omega

/-- So many steps are enough for all readers, the tighter ones first. -/
structure Suffices (fuel : Nat) : Prop where
  operand (lexemes : List Lexeme) :
    6 * lexemes.length + 2 ≤ fuel → operand fuel lexemes ≠ .exhausted
  comparison (lexemes : List Lexeme) :
    6 * lexemes.length + 3 ≤ fuel → comparison fuel lexemes ≠ .exhausted
  coalesceOperand (lexemes : List Lexeme) :
    6 * lexemes.length + 4 ≤ fuel → coalesceOperand fuel lexemes ≠ .exhausted
  coalesce (lexemes : List Lexeme) :
    6 * lexemes.length + 5 ≤ fuel → coalesce fuel lexemes ≠ .exhausted
  ternary (lexemes : List Lexeme) :
    6 * lexemes.length + 6 ≤ fuel → ternary fuel lexemes ≠ .exhausted
  arguments (name : String) (lexemes : List Lexeme) :
    6 * lexemes.length + 7 ≤ fuel → arguments name fuel lexemes ≠ .exhausted

section Step

variable {fuel : Nat} {lexemes : List Lexeme}

theorem Suffices.operand_step (ih : Suffices fuel)
    (hFuel : 6 * lexemes.length + 2 ≤ fuel + 1) :
    Parser.operand (fuel + 1) lexemes ≠ .exhausted := by
  rw [Parser.operand]
  cases lexemes with
  | nil => simp [current]
  | cons first lexemes =>
    rw [List.length_cons] at hFuel
    rw [List.tail_cons]
    split
    · refine andThen_ne_exhausted (ih.ternary _ (by omega)) fun _ _ _ => ?_
      exact andThen_ne_exhausted (expect_ne_exhausted _ _ _) fun _ _ _ => by simp
    · simp
    · split <;> simp
    · simp
    · simp
    · simp
    · split
      · dsimp only
        split
        · exact callOf_ne_exhausted _ _ _ _
        · have hInside : lexemes.tail.length = lexemes.length - 1 := List.length_tail
          refine andThen_ne_exhausted (ih.arguments _ _ (by omega)) fun _ _ _ => ?_
          exact callOf_ne_exhausted _ _ _ _
      · exact andThen_ne_exhausted (segments_ne_exhausted _) fun _ _ _ => by simp
    · simp
    · simp

theorem Suffices.comparison_step (ih : Suffices fuel)
    (hFuel : 6 * lexemes.length + 3 ≤ fuel + 1) :
    Parser.comparison (fuel + 1) lexemes ≠ .exhausted := by
  rw [Parser.comparison]
  refine andThen_ne_exhausted (ih.operand _ (by omega)) fun left rest hLeft => ?_
  split
  · have hRest := ((readsWith fuel).operand hLeft).length_lt
    have hTail : rest.tail.length = rest.length - 1 := List.length_tail
    exact andThen_ne_exhausted (ih.operand _ (by omega)) fun _ _ _ => by simp
  · simp

theorem Suffices.coalesceOperand_step (ih : Suffices fuel)
    (hFuel : 6 * lexemes.length + 4 ≤ fuel + 1) :
    Parser.coalesceOperand (fuel + 1) lexemes ≠ .exhausted := by
  have hComparison := ih.comparison lexemes (by omega)
  rw [Parser.coalesceOperand]
  split
  · split
    · simp
    · split <;> simp
  · split <;> simp
  · exact fun _ => hComparison ‹_›

/-- An operand of `??` leaves no more lexemes than it finds. -/
theorem coalesceOperand_length_le {rest : List Lexeme} {p : Part}
    (h : Parser.coalesceOperand fuel lexemes = .done p rest) : rest.length ≤ lexemes.length := by
  rcases (readsWith fuel).coalesceOperand h with hReads | ⟨-, hFrom⟩
  · exact Nat.le_of_lt hReads.length_lt
  · obtain ⟨passed, found, after, rfl, rfl, -, -⟩ := coalesceFrom?_eq_some_iff.mp hFrom
    simp

theorem length_tail_lt {t : Token} (h : current lexemes = t) (hFinish : t ≠ .finish) :
    lexemes.tail.length < lexemes.length := by
  obtain ⟨lexeme, -, hCons⟩ := eq_cons_of_current h hFinish
  rw [hCons, List.tail_cons, List.length_cons]
  omega

theorem Suffices.coalesce_step (ih : Suffices fuel)
    (hFuel : 6 * lexemes.length + 5 ≤ fuel + 1) :
    Parser.coalesce (fuel + 1) lexemes ≠ .exhausted := by
  rw [Parser.coalesce]
  refine andThen_ne_exhausted (ih.coalesceOperand _ (by omega)) fun left rest hLeft => ?_
  split
  · rename_i hCoalesce
    have hRest := coalesceOperand_length_le hLeft
    have hTail := length_tail_lt hCoalesce (by simp)
    exact andThen_ne_exhausted (ih.coalesce _ (by omega)) fun _ _ _ => by simp
  · simp

theorem Suffices.ternary_step (ih : Suffices fuel)
    (hFuel : 6 * lexemes.length + 6 ≤ fuel + 1) :
    Parser.ternary (fuel + 1) lexemes ≠ .exhausted := by
  rw [Parser.ternary]
  refine andThen_ne_exhausted (ih.coalesce _ (by omega)) fun condition rest hCondition => ?_
  split
  · have hRest := ((readsWith fuel).coalesce hCondition).length_lt
    have hTail : rest.tail.length = rest.length - 1 := List.length_tail
    refine andThen_ne_exhausted (ih.ternary _ (by omega)) fun yes afterYes hYes => ?_
    have hAfterYes := ((readsWith fuel).ternary hYes).length_lt
    refine andThen_ne_exhausted (expect_ne_exhausted _ _ _) fun _ afterColon hColon => ?_
    obtain ⟨-, rfl⟩ := expect_eq_done hColon
    have hTail : afterYes.tail.length = afterYes.length - 1 := List.length_tail
    exact andThen_ne_exhausted (ih.ternary _ (by omega)) fun _ _ _ => by simp
  · simp

theorem Suffices.arguments_step (ih : Suffices fuel) {name : String}
    (hFuel : 6 * lexemes.length + 7 ≤ fuel + 1) :
    Parser.arguments name (fuel + 1) lexemes ≠ .exhausted := by
  rw [Parser.arguments]
  refine andThen_ne_exhausted (ih.ternary _ (by omega)) fun arg rest hArg => ?_
  split
  · have hRest := ((readsWith fuel).ternary hArg).length_lt
    have hTail : rest.tail.length = rest.length - 1 := List.length_tail
    exact andThen_ne_exhausted (ih.arguments _ _ (by omega)) fun _ _ _ => by simp
  · simp
  · simp
  · simp

end Step

theorem suffices_of_steps (fuel : Nat) : Suffices fuel := by
  induction fuel with
  | zero => constructor <;> intros <;> omega
  | succ fuel ih =>
    exact ⟨fun _ => ih.operand_step, fun _ => ih.comparison_step, fun _ => ih.coalesceOperand_step,
      fun _ => ih.coalesce_step, fun _ => ih.ternary_step, fun _ _ => ih.arguments_step⟩

/-- A whole expression is never given up for want of steps. -/
theorem ternary_fuelFor_ne_exhausted (lexemes : List Lexeme) :
    ternary (fuelFor lexemes) lexemes ≠ .exhausted :=
  (suffices_of_steps _).ternary _ (Nat.le_refl _)

end TextTemplate.Parser
