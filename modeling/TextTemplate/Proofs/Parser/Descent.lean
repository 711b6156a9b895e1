import TextTemplate.Proofs.Parser.Plan
import TextTemplate.Proofs.Parser.Recovery

/-!
# The readers descend

A list of lexemes that ends with an end mark is read within its bounds: the readers that succeed use
up lexemes, up to left operands of `??` that are null, none of them passes an end mark, and what
stands behind the last one makes no difference.

* `plan_append`, `blind_read`: nothing behind the end mark is looked at.
* `Descent`: what the readers do from a place on.
* `readers_descend`: they descend from every place, so they come to an end.
-/

namespace TextTemplate.Parser

open Grammar

/-! ## Behind the end mark -/

theorem Ended.of_cons {first : Lexeme} {rest : List Lexeme} (h : Ended (first :: rest)) :
    rest = [] ∧ first.token = .finish ∨ Ended rest := by
  obtain ⟨_ | ⟨l, before⟩, last, hLast, hFinish⟩ := h
  · obtain ⟨rfl, rfl⟩ := List.cons.inj hLast
    exact .inl ⟨rfl, hFinish⟩
  · obtain ⟨-, hRest⟩ := List.cons.inj hLast
    exact .inr ⟨before, last, hRest, hFinish⟩

/-- The same, with more lexemes behind the rest. -/
def behind {α : Type} (more : List Lexeme) : Parsed α → Parsed α
  | .done a rest => .done a (rest ++ more)
  | p => p

section Append

variable {α β : Type} {lexemes : List Lexeme} {more : List Lexeme}

@[simp] theorem behind_done (a : α) (rest : List Lexeme) :
    behind more (.done a rest) = .done a (rest ++ more) := rfl

@[simp] theorem behind_fault (f : LocatedFault) :
    behind more (.fault f : Parsed α) = .fault f := rfl

@[simp] theorem behind_exhausted : behind more (.exhausted : Parsed α) = .exhausted := rfl

/-- Two readers, one after the other. -/
theorem andThen_behind {p p' : Parsed α} {next next' : α → List Lexeme → Parsed β}
    (hp : p' = behind more p)
    (hNext : ∀ a rest, p = .done a rest → next' a (rest ++ more) = behind more (next a rest)) :
    p'.andThen next' = behind more (p.andThen next) := by
  subst hp
  cases p with
  | done a rest => exact hNext a rest rfl
  | fault f => rfl
  | exhausted => rfl

theorem Ended.current_append (h : Ended lexemes) : current (lexemes ++ more) = current lexemes := by
  obtain ⟨first, rest, rfl⟩ := h.exists_cons
  rfl

theorem Ended.position_append (h : Ended lexemes) :
    position (lexemes ++ more) = position lexemes := by
  obtain ⟨first, rest, rfl⟩ := h.exists_cons
  rfl

theorem Ended.tail_append (h : Ended lexemes) : (lexemes ++ more).tail = lexemes.tail ++ more := by
  obtain ⟨first, rest, rfl⟩ := h.exists_cons
  rfl

theorem Ended.tail {t : Token} (h : Ended lexemes) (ht : current lexemes = t)
    (hFinish : t ≠ .finish) : Ended lexemes.tail := (Leads.tail ht hFinish).ended h

theorem faultAt_append (h : Ended lexemes) (fault : SyntaxFault) :
    (faultAt fault (lexemes ++ more) : Parsed α) = behind more (faultAt fault lexemes) := by
  rw [faultAt, faultAt, h.position_append, behind_fault]

theorem expect_append (h : Ended lexemes) (t : Token) (what : String) :
    expect t what (lexemes ++ more) = behind more (expect t what lexemes) := by
  rw [expect, expect, h.current_append, h.tail_append]
  split
  · rfl
  · exact faultAt_append h _

theorem callOf_append (name : String) (opening : Nat) (args : List Part) (rest : List Lexeme) :
    callOf name opening args (rest ++ more) = behind more (callOf name opening args rest) := by
  unfold callOf
  split
  · split <;> rfl
  · rfl

theorem coalesceFrom?_append_of_ended (h : Ended lexemes) (depth : Nat) :
    coalesceFrom? depth (lexemes ++ more) = (coalesceFrom? depth lexemes).map (· ++ more) := by
  induction lexemes generalizing depth with
  | nil =>
    obtain ⟨first, rest, hNil⟩ := h.exists_cons
    cases hNil
  | cons first rest ih =>
    rw [List.cons_append, coalesceFrom?_cons, coalesceFrom?_cons]
    split
    · rfl
    · rcases h.of_cons with ⟨rfl, hLast⟩ | hRest
      · rw [hLast]
        rfl
      · cases depthStep depth first.token with
        | none => rfl
        | some next => exact ih hRest next

theorem segments_append (h : Ended lexemes) :
    segments (lexemes ++ more) = behind more (segments lexemes) := by
  -- One step takes up to three lexemes, so the induction is on how many there are.
  induction hLength : lexemes.length using Nat.strongRecOn generalizing lexemes with
  | ind n ih =>
    rw [segments_eq (lexemes ++ more), segments_eq lexemes, h.current_append, h.tail_append]
    cases hFirst : current lexemes with
    | dot =>
      have hTail := h.tail hFirst (by simp)
      dsimp only
      rw [hTail.current_append, hTail.tail_append]
      cases hName : fieldName? (current lexemes.tail) with
      | none => exact faultAt_append hTail _
      | some name =>
        have hField : current lexemes.tail ≠ .finish := by
          intro hFinish
          rw [hFinish] at hName
          cases hName
        have hShorter : lexemes.tail.tail.length < n := by
          have := length_tail_lt hFirst (by simp)
          rw [List.length_tail]
          omega
        exact andThen_behind (ih _ hShorter (hTail.tail rfl hField) rfl) fun _ _ _ => rfl
    | leftBracket =>
      have hTail := h.tail hFirst (by simp)
      dsimp only
      rw [hTail.current_append, hTail.tail_append]
      cases hSecond : current lexemes.tail with
      | number x =>
        dsimp only
        cases indexOf? x with
        | none => exact faultAt_append hTail _
        | some i =>
          have hClose := hTail.tail hSecond (by simp)
          dsimp only
          rw [hClose.current_append, hClose.tail_append]
          by_cases hClosing : current lexemes.tail.tail = .rightBracket
          · rw [if_pos hClosing, if_pos hClosing]
            have hShorter : lexemes.tail.tail.tail.length < n := by
              have := length_tail_lt hFirst (by simp)
              rw [List.length_tail, List.length_tail]
              omega
            exact andThen_behind (ih _ hShorter (hClose.tail hClosing (by simp)) rfl)
              fun _ _ _ => rfl
          · rw [if_neg hClosing, if_neg hClosing]
            exact faultAt_append hClose _
      | _ => exact faultAt_append hTail _
    | _ => rfl

/-- Answers that do not depend on what stands behind the end mark. -/
def Answers.Blind (answers : Answers) (more : List Lexeme) : Prop :=
  ∀ r lexemes, Ended lexemes → answers r (lexemes ++ more) = behind more (answers r lexemes)

open Plan in
/-- One step of a reader, with more lexemes behind the end mark. -/
theorem plan_append {answers : Answers} (hAdvance : answers.Advance) (hBlind : answers.Blind more)
    (r : Reader) (h : Ended lexemes) :
    (r.plan (lexemes ++ more)).run answers = behind more ((r.plan lexemes).run answers) := by
  have hRest : ∀ {r a lexemes rest}, Ended lexemes → answers r lexemes = .done a rest →
      Ended rest := fun h hDone => (hAdvance _ _ _ _ hDone).leads.ended h
  cases r with
  | ternary =>
    rw [Reader.plan, Reader.plan, run_callThen, run_callThen]
    refine andThen_behind (hBlind _ _ h) fun condition rest hCondition => ?_
    have hr := hRest h hCondition
    rw [hr.current_append, hr.tail_append]
    split
    · have hYes := hr.tail ‹_› (by simp)
      rw [run_callThen, run_callThen]
      refine andThen_behind (hBlind _ _ hYes) fun yes afterYes hDone => ?_
      have hColon := hRest hYes hDone
      rw [run_after, run_after]
      refine andThen_behind (expect_append hColon _ _) fun _ afterColon hExpect => ?_
      obtain ⟨hCurrent, rfl⟩ := expect_eq_done hExpect
      rw [run_callThen, run_callThen]
      exact andThen_behind (hBlind _ _ (hColon.tail hCurrent (by simp))) fun _ _ _ => rfl
    · rfl
  | coalesce =>
    rw [Reader.plan, Reader.plan, run_callThen, run_callThen]
    refine andThen_behind (hBlind _ _ h) fun left rest hLeft => ?_
    have hr := hRest h hLeft
    rw [hr.current_append, hr.tail_append]
    split
    · rw [run_callThen, run_callThen]
      exact andThen_behind (hBlind _ _ (hr.tail ‹_› (by simp))) fun _ _ _ => rfl
    · rfl
  | coalesceOperand =>
    rw [Reader.plan, Reader.plan, run, run, hBlind _ _ h, coalesceFrom?_append_of_ended h]
    cases hComparison : answers .comparison lexemes with
    | done p rest =>
      dsimp only [behind_done]
      rw [(hRest h hComparison).current_append, run_ends, run_ends]
      split
      · rfl
      · cases coalesceFrom? 0 lexemes <;> rfl
    | fault f => cases coalesceFrom? 0 lexemes <;> simp
    | exhausted => rfl
  | comparison =>
    rw [Reader.plan, Reader.plan, run_callThen, run_callThen]
    refine andThen_behind (hBlind _ _ h) fun left rest hLeft => ?_
    have hr := hRest h hLeft
    rw [hr.current_append, hr.tail_append]
    cases hOp : comparison? (current rest) with
    | none => rfl
    | some op =>
      have hCurrent := comparison?_eq_some_iff.mp hOp
      have hFinish : op.token ≠ .finish := by cases op <;> simp [Comparison.token]
      dsimp only
      rw [run_callThen, run_callThen]
      exact andThen_behind (hBlind _ _ (hr.tail hCurrent hFinish)) fun _ _ _ => rfl
  | operand =>
    rw [Reader.plan, Reader.plan, h.current_append, h.tail_append]
    cases hFirst : current lexemes with
    | leftParen =>
      have hInside := h.tail hFirst (by simp)
      dsimp only
      rw [run_callThen, run_callThen]
      refine andThen_behind (hBlind _ _ hInside) fun p rest hDone => ?_
      rw [run_after, run_after]
      exact andThen_behind (expect_append (hRest hInside hDone) _ _) fun _ _ _ => rfl
    | name name =>
      have hr := h.tail hFirst (by simp)
      dsimp only
      rw [hr.current_append, hr.tail_append, hr.position_append]
      split
      · have hInside := hr.tail ‹_› (by simp)
        rw [hInside.current_append, hInside.tail_append]
        split
        · exact callOf_append _ _ _ _
        · rw [run_callThen, run_callThen]
          exact andThen_behind (hBlind _ _ hInside) fun _ _ _ => callOf_append _ _ _ _
      · exact andThen_behind (segments_append hr) fun _ _ _ => rfl
    | minus =>
      have hr := h.tail hFirst (by simp)
      rw [run_ends, run_ends, Parser.operand, Parser.operand, h.current_append, hFirst,
        h.tail_append, hr.current_append]
      cases hSecond : current lexemes.tail with
      | number x =>
        dsimp only
        rw [hr.tail_append]
        rfl
      | _ => exact faultAt_append hr _
    | _ =>
      rw [run_ends, run_ends, Parser.operand, Parser.operand, h.current_append, hFirst]
      first
        | exact faultAt_append h _
        | (dsimp only
           rw [h.tail_append]
           rfl)
  | arguments name =>
    rw [Reader.plan, Reader.plan, run_callThen, run_callThen]
    refine andThen_behind (hBlind _ _ h) fun arg rest hArg => ?_
    have hr := hRest h hArg
    rw [hr.current_append, hr.tail_append]
    cases hCurrent : current rest with
    | comma =>
      dsimp only
      rw [run_callThen, run_callThen]
      exact andThen_behind (hBlind _ _ (hr.tail hCurrent (by simp))) fun _ _ _ => rfl
    | rightParen => rfl
    | _ => exact faultAt_append hr _

/-- What stands behind the end mark is never looked at. -/
theorem blind_read (fuel : Nat) : Answers.Blind (Reader.read fuel) more := by
  induction fuel with
  | zero =>
    intro r lexemes _
    cases r <;> simp [Reader.read, Parser.operand, Parser.comparison, Parser.coalesceOperand,
      Parser.coalesce, Parser.ternary, Parser.arguments]
  | succ fuel ih =>
    intro r lexemes h
    rw [read_succ, read_succ]
    exact plan_append (advance_read fuel) ih r h

end Append

/-! ## By places in a list of lexemes -/

/-- From a place in a list of lexemes on to a place that is in the list too, without passing an end
mark. -/
structure Onward (all : List Lexeme) (start stop : Nat) : Prop where
  le : start ≤ stop
  inside : stop < all.length
  unfinished : .finish ∉ tokens ((all.drop start).take (stop - start))

theorem Ended.drop {all : List Lexeme} (h : Ended all) {start : Nat} (hStart : start < all.length) :
    Ended (all.drop start) := by
  obtain ⟨before, last, rfl, hFinish⟩ := h
  rw [List.length_append, List.length_singleton] at hStart
  exact ⟨before.drop start, last, List.drop_append_of_le_length (by omega), hFinish⟩

/-- A rest that is arrived at has a place. -/
theorem Leads.exists_place {all rest : List Lexeme} {start : Nat} (hEnded : Ended all)
    (hStart : start < all.length) (h : Leads (all.drop start) rest) :
    ∃ stop, Onward all start stop ∧ rest = all.drop stop ∧
      (all.drop start).length = (stop - start) + rest.length := by
  have hRest := h.ended (hEnded.drop hStart)
  obtain ⟨used, hUsed, hFinish⟩ := h
  have hDrop : rest = all.drop (start + used.length) := by
    rw [← List.drop_drop, hUsed, List.drop_left]
  have hInside : start + used.length < all.length := by
    obtain ⟨first, more, rfl⟩ := hRest.exists_cons
    refine Nat.lt_of_not_le fun hLong => ?_
    rw [List.drop_eq_nil_of_le hLong] at hDrop
    cases hDrop
  refine ⟨start + used.length, ⟨Nat.le_add_right _ _, hInside, ?_⟩, hDrop, ?_⟩
  · rwa [Nat.add_sub_cancel_left, hUsed, List.take_left]
  · rw [hUsed, List.length_append, Nat.add_sub_cancel_left]

/-- Reads the arguments of a call behind its opening parenthesis. -/
def argumentList (name : String) (fuel : Nat) (lexemes : List Lexeme) : Parsed (List Part) :=
  if current lexemes = .rightParen then .done [] lexemes.tail else arguments name fuel lexemes

theorem leads_of_argumentList {name : String} {fuel : Nat} {lexemes rest : List Lexeme}
    {args : List Part} (h : argumentList name fuel lexemes = .done args rest) :
    Leads lexemes rest ∧ rest.length < lexemes.length := by
  unfold argumentList at h
  split at h
  · cases h
    exact ⟨.tail ‹_› (by simp), length_tail_lt ‹_› (by simp)⟩
  · obtain ⟨hLeads, hShorter | ⟨hReader, -⟩⟩ := advance_read fuel (.arguments name) _ _ _ h
    · exact ⟨hLeads, hShorter⟩
    · cases hReader

/-- A call reads its name, its opening parenthesis and its arguments. -/
theorem operand_of_call {name : String} {lexemes : List Lexeme}
    (hName : current lexemes = .name name) (hOpening : current lexemes.tail = .leftParen)
    (fuel : Nat) :
    operand (fuel + 1) lexemes
      = (argumentList name fuel lexemes.tail.tail).andThen fun args rest =>
          callOf name (position lexemes.tail) args rest := by
  rw [operand, hName]
  dsimp only
  rw [if_pos hOpening, argumentList]
  split <;> rfl

/-- Every segment of a path has two tokens at least. -/
theorem length_le_of_trail {ts : List Token} {path : Path} (h : Trail ts path) :
    2 * path.length ≤ ts.length := by
  induction h with
  | nil => exact Nat.le_refl _
  | field _ _ ih =>
    simp only [List.length_cons]
    omega
  | index _ _ ih =>
    simp only [List.length_cons]
    omega

/-- What the readers do from a place on in a list of lexemes. -/
structure Descent (all : List Lexeme) (start : Nat) : Prop where
  /-- Success uses up a token. -/
  progress {fuel : Nat} {r : Reader} {a : r.Result} {rest : List Lexeme} :
    r ≠ .coalesceOperand → r.read fuel (all.drop start) = .done a rest →
      ∃ stop, Onward all start stop ∧ start < stop ∧ rest = all.drop stop
  argumentList {fuel : Nat} {name : String} {args : List Part} {rest : List Lexeme} :
    argumentList name fuel (all.drop start) = .done args rest →
      ∃ stop, Onward all start stop ∧ start < stop ∧ rest = all.drop stop
  /-- A left operand of `??` may be null without any tokens. -/
  coalesceOperand {fuel : Nat} {p : Part} {rest : List Lexeme} :
    coalesceOperand fuel (all.drop start) = .done p rest →
      ∃ stop, Onward all start stop ∧ rest = all.drop stop ∧
        (start < stop ∨ start = stop ∧ p = .literal .null ∧ current rest = .coalesce)
  /-- Recovery does not go back behind the start of the operand. -/
  recovery {rest : List Lexeme} :
    coalesceFrom? 0 (all.drop start) = some rest →
      ∃ stop, Onward all start stop ∧ rest = all.drop stop ∧ current rest = .coalesce
  segments {path : Path} {rest : List Lexeme} :
    segments (all.drop start) = .done path rest →
      ∃ stop, Onward all start stop ∧ start + 2 * path.length ≤ stop ∧ rest = all.drop stop
  /-- Calls go further on, or to tighter readers. -/
  calls {fuel : Nat} {r : Reader} :
    ∀ c ∈ (r.plan (all.drop start)).calls (Reader.read fuel),
      ∃ place, Onward all start place ∧ c.2 = all.drop place ∧
        (start < place ∨ start = place ∧ c.1.level < r.level)
  /-- Nothing is looked up outside of the list. -/
  inside (fuel : Nat) (r : Reader) (more : List Lexeme) :
    r.read fuel (all.drop start ++ more) = behind more (r.read fuel (all.drop start))

theorem descent {all : List Lexeme} (hEnded : Ended all) {start : Nat}
    (hStart : start < all.length) : Descent all start where
  progress {fuel r a rest} hReader h := by
    obtain ⟨hLeads, hShorter | ⟨hOperand, -⟩⟩ := advance_read fuel r _ _ _ h
    · obtain ⟨stop, hOnward, hRest, hLength⟩ := hLeads.exists_place hEnded hStart
      exact ⟨stop, hOnward, by omega, hRest⟩
    · exact absurd hOperand hReader
  argumentList h := by
    obtain ⟨hLeads, hShorter⟩ := leads_of_argumentList h
    obtain ⟨stop, hOnward, hRest, hLength⟩ := hLeads.exists_place hEnded hStart
    exact ⟨stop, hOnward, by omega, hRest⟩
  coalesceOperand {fuel p rest} h := by
    rcases (readsWith fuel).coalesceOperand h with hReads | ⟨hNull, hFrom⟩
    · obtain ⟨stop, hOnward, hRest, hLength⟩ := (leads_of_reads hReads).exists_place hEnded hStart
      have hShorter := hReads.length_lt
      exact ⟨stop, hOnward, hRest, .inl (by omega)⟩
    · obtain ⟨hLeads, hCurrent⟩ := leads_of_coalesceFrom? hFrom
      obtain ⟨stop, hOnward, hRest, hLength⟩ := hLeads.exists_place hEnded hStart
      refine ⟨stop, hOnward, hRest, ?_⟩
      rcases Nat.lt_or_eq_of_le hOnward.le with hLess | hSame
      · exact .inl hLess
      · exact .inr ⟨hSame, hNull, hCurrent⟩
  recovery h := by
    obtain ⟨hLeads, hCurrent⟩ := leads_of_coalesceFrom? h
    obtain ⟨stop, hOnward, hRest, -⟩ := hLeads.exists_place hEnded hStart
    exact ⟨stop, hOnward, hRest, hCurrent⟩
  segments {path rest} h := by
    obtain ⟨stop, hOnward, hRest, hLength⟩ :=
      (leads_of_segments h).exists_place hEnded hStart
    obtain ⟨used, hUsed, hTrail⟩ := segments_trail h
    have hPath := length_le_of_trail hTrail
    have hOn := hOnward.le
    rw [hUsed, List.length_append] at hLength
    rw [tokens, List.length_map] at hPath
    exact ⟨stop, hOnward, by omega, hRest⟩
  calls {fuel r} c hc := by
    have hDescends := calls_descend (advance_read fuel) r _ c hc
    obtain ⟨place, hOnward, hPlace, hLength⟩ := hDescends.leads.exists_place hEnded hStart
    refine ⟨place, hOnward, hPlace, ?_⟩
    rcases hDescends.lower with hShorter | ⟨hSame, hTighter⟩
    · exact .inl (by omega)
    · rw [hSame] at hLength
      have hOn := hOnward.le
      exact .inr ⟨by omega, hTighter⟩
  inside fuel r more := blind_read fuel r _ (hEnded.drop hStart)

/-- Every reader that succeeds uses up tokens and stays in the list, up to left operands of `??`
that are null; recovery does not go back behind the start of its operand; and every call goes
further on, or from its own place to a tighter reader. So the equations of the readers have exactly
one solution without a bound on steps, and that is what they give with a bound that is large
enough. -/
theorem readers_descend :
    (∀ (fuel : Nat) (r : Reader) (lexemes : List Lexeme),
      r.read (fuel + 1) lexemes = (r.plan lexemes).run (Reader.read fuel)) ∧
    (∀ (name : String) (fuel : Nat) (lexemes : List Lexeme), current lexemes = .name name →
      current lexemes.tail = .leftParen →
      operand (fuel + 1) lexemes = (argumentList name fuel lexemes.tail.tail).andThen
        fun args rest => callOf name (position lexemes.tail) args rest) ∧
    (∀ all : List Lexeme, Ended all → ∀ start < all.length, Descent all start) ∧
    ∃ answers : Answers, answers.Solve ∧
      (∀ answers' : Answers, answers'.Solve → answers' = answers) ∧
      (∀ r lexemes, answers r lexemes ≠ .exhausted) ∧
      (∀ r lexemes fuel, r.bound lexemes ≤ fuel → r.read fuel lexemes = answers r lexemes) ∧
      ∀ lexemes, ternary (fuelFor lexemes) lexemes = answers .ternary lexemes := by
  refine ⟨read_succ, fun name fuel lexemes hName hOpening => operand_of_call hName hOpening fuel,
    fun all hEnded start hStart => descent hEnded hStart, Reader.result, solve_result,
    fun _ hSolve => eq_result_of_solve hSolve, ?_, ?_, fun _ => rfl⟩
  · exact fun r lexemes => read_ne_exhausted (Nat.le_refl _)
  · exact fun r lexemes fuel hBound => read_eq_of_bound_le hBound (Nat.le_refl _)

/-- In `(a] ?? b c` the operand that starts at the parenthesis goes back to the `??` that the
operand inside of it stopped at already. -/
theorem readers_descend_mismatched :
    let all : List Lexeme := [.leftParen, .name "a", .rightBracket, .coalesce, .name "b", .name "c",
      .finish].map fun t => ⟨t, 0⟩
    Ended all ∧ (∃ stop, Onward all 0 stop ∧ all.drop 3 = all.drop stop) ∧
      ternary 20 (all.drop 1)
        = .done (.coalesce (.literal .null) (.variable "b")) (all.drop 5) ∧
      ternary 20 all = .done (.coalesce (.literal .null) (.variable "b")) (all.drop 5) := by
  intro all
  have hEnded : Ended all := ⟨all.dropLast, ⟨.finish, 0⟩, rfl, rfl⟩
  have hOperand : coalesceOperand 20 (all.drop 0) = .done (.literal .null) (all.drop 3) := rfl
  obtain ⟨stop, hOnward, hRest, -⟩ :=
    (readers_descend.2.2.1 all hEnded 0 (by decide)).coalesceOperand hOperand
  exact ⟨hEnded, ⟨stop, hOnward, hRest⟩, rfl, rfl⟩

end TextTemplate.Parser
