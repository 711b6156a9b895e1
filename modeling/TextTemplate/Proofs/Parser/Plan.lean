import TextTemplate.Proofs.Parser.Steps

/-!
# The readers and their calls

Recovery moves a reader back to a `??` that a reader inside of it may have passed already. Still
whatever a reader calls starts further on, or at its own place and is tighter. So the readers need
no bound on their steps: their equations without one have exactly one solution, which the bounded
readers give as soon as the bound is large enough.

* `Plan`, `Reader.plan`: what a reader does, with the calls that it makes set apart.
* `read_succ`: the readers follow their plans.
* `calls_descend`: the calls of a plan, one case for each reader.
* `solve_result`, `eq_result_of_solve`: the equations of the plans and their one solution.
-/

namespace TextTemplate.Parser

open Grammar

/-! ## Plans -/

/-- The readers that call one another. -/
inductive Reader
  | operand
  | comparison
  | coalesceOperand
  | coalesce
  | ternary
  | arguments (function : String)

namespace Reader

/-- Tighter readers have lower levels. -/
def level : Reader → Nat
  | operand => 0
  | comparison => 1
  | coalesceOperand => 2
  | coalesce => 3
  | ternary => 4
  | arguments _ => 5

/-- What a reader gives. -/
abbrev Result : Reader → Type
  | arguments _ => List Part
  | _ => Part

/-- Reads with a bound on steps. -/
def read (fuel : Nat) : (r : Reader) → List Lexeme → Parsed r.Result
  | operand => Parser.operand fuel
  | comparison => Parser.comparison fuel
  | coalesceOperand => Parser.coalesceOperand fuel
  | coalesce => Parser.coalesce fuel
  | ternary => Parser.ternary fuel
  | arguments function => Parser.arguments function fuel

/-- Steps that are enough to read lexemes. -/
def bound (r : Reader) (lexemes : List Lexeme) : Nat := 6 * lexemes.length + r.level + 2

end Reader

/-- What calls of readers give. -/
abbrev Answers := (r : Reader) → List Lexeme → Parsed r.Result

/-- What a reader does: it ends, or calls a reader and goes on with what that one gives. -/
inductive Plan (α : Type)
  | ends (p : Parsed α)
  | call (r : Reader) (lexemes : List Lexeme) (next : Parsed r.Result → Plan α)

namespace Plan

variable {α β : Type}

/-- What comes out if calls give these answers. -/
def run (answers : Answers) : Plan α → Parsed α
  | ends p => p
  | call r lexemes next => (next (answers r lexemes)).run answers

/-- The calls that are made if they give these answers. -/
def calls (answers : Answers) : Plan α → List (Reader × List Lexeme)
  | ends _ => []
  | call r lexemes next => (r, lexemes) :: (next (answers r lexemes)).calls answers

/-- Goes on after a success. -/
def after (p : Parsed β) (next : β → List Lexeme → Plan α) : Plan α :=
  match p with
  | .done b rest => next b rest
  | .fault f => ends (.fault f)
  | .exhausted => ends .exhausted

/-- Calls a reader and goes on after a success. -/
def callThen (r : Reader) (lexemes : List Lexeme) (next : r.Result → List Lexeme → Plan α) :
    Plan α := call r lexemes fun p => after p next

end Plan

open Plan in
/-- The readers, each with its calls set apart. -/
def Reader.plan : (r : Reader) → List Lexeme → Plan r.Result
  | .ternary, lexemes =>
    callThen .coalesce lexemes fun condition rest =>
      if current rest = .question then
        callThen .ternary rest.tail fun yes rest =>
          after (expect .colon "':' in conditional expression" rest) fun _ rest =>
            callThen .ternary rest fun no rest => ends (.done (.ternary condition yes no) rest)
      else ends (.done condition rest)
  | .coalesce, lexemes =>
    callThen .coalesceOperand lexemes fun left rest =>
      if current rest = .coalesce then
        callThen .coalesce rest.tail fun right rest => ends (.done (.coalesce left right) rest)
      else ends (.done left rest)
  | .coalesceOperand, lexemes =>
    let recover (failure : Parsed Part) : Parsed Part :=
      match coalesceFrom? 0 lexemes with
      | some rest => .done (.literal .null) rest
      | none => failure
    call .comparison lexemes fun
      | .done part rest =>
        ends (if endsOperand (current rest) then .done part rest else recover (.done part rest))
      | .fault f => ends (recover (.fault f))
      | .exhausted => ends .exhausted
  | .comparison, lexemes =>
    callThen .operand lexemes fun left rest =>
      match comparison? (current rest) with
      | some op =>
        callThen .operand rest.tail fun right rest => ends (.done (.compare left op right) rest)
      | none => ends (.done left rest)
  | .operand, lexemes =>
    match current lexemes with
    | .leftParen =>
      callThen .ternary lexemes.tail fun part rest =>
        after (expect .rightParen "')'" rest) fun _ rest => ends (.done part rest)
    | .name name =>
      if current lexemes.tail = .leftParen then
        let opening := position lexemes.tail
        let inside := lexemes.tail.tail
        if current inside = .rightParen then ends (callOf name opening [] inside.tail)
        else callThen (.arguments name) inside fun args rest => ends (callOf name opening args rest)
      else ends (pathPart name lexemes.tail)
    -- No other operand calls a reader, so one step is enough for it.
    | _ => ends (Parser.operand 1 lexemes)
  | .arguments name, lexemes =>
    callThen .ternary lexemes fun arg rest =>
      match current rest with
      | .comma =>
        callThen (.arguments name) rest.tail fun args rest => ends (.done (arg :: args) rest)
      | .rightParen => ends (.done [arg] rest.tail)
      | .finish => ends (faultAt (.unclosedCall name) rest)
      | found => ends (faultAt (.callSeparator name found) rest)

namespace Plan

variable {α β : Type} (answers : Answers)

@[simp] theorem run_ends (p : Parsed α) : (ends p).run answers = p := rfl

@[simp] theorem run_after (p : Parsed β) (next : β → List Lexeme → Plan α) :
    (after p next).run answers = p.andThen fun b rest => (next b rest).run answers := by
  cases p <;> rfl

@[simp] theorem run_callThen (r : Reader) (lexemes : List Lexeme)
    (next : r.Result → List Lexeme → Plan α) :
    (callThen r lexemes next).run answers
      = (answers r lexemes).andThen fun a rest => (next a rest).run answers :=
  run_after answers _ _

end Plan

/-- The readers follow their plans, with one step less for every call. -/
theorem read_succ (fuel : Nat) (r : Reader) (lexemes : List Lexeme) :
    r.read (fuel + 1) lexemes = (r.plan lexemes).run (Reader.read fuel) := by
  cases r with
  | ternary =>
    rw [Reader.read, Parser.ternary, Reader.plan, Plan.run_callThen]
    congr
    funext condition rest
    split <;> simp [Reader.read]
  | coalesce =>
    rw [Reader.read, Parser.coalesce, Reader.plan, Plan.run_callThen]
    congr
    funext left rest
    split <;> simp [Reader.read]
  | coalesceOperand =>
    have hComparison : Reader.read fuel .comparison lexemes = Parser.comparison fuel lexemes := rfl
    rw [Reader.read, Parser.coalesceOperand, Reader.plan, Plan.run, hComparison]
    cases Parser.comparison fuel lexemes <;> rfl
  | comparison =>
    rw [Reader.read, Parser.comparison, Reader.plan, Plan.run_callThen]
    congr
    funext left rest
    cases comparison? (current rest) <;> simp [Reader.read]
  | operand =>
    rw [Reader.read, Parser.operand, Reader.plan]
    cases hFirst : current lexemes with
    | leftParen => simp [Reader.read]
    | name name =>
      dsimp only
      split
      · split <;> simp [Reader.read]
      · simp
    | _ => simp [Parser.operand, hFirst]
  | arguments name =>
    rw [Reader.read, Parser.arguments, Reader.plan, Plan.run_callThen]
    congr
    funext arg rest
    cases current rest <;> simp [Reader.read]

/-! ## Going on -/

/-- The lexemes end with an end mark. -/
def Ended (lexemes : List Lexeme) : Prop :=
  ∃ before last, lexemes = before ++ [last] ∧ last.token = .finish

/-- The rest is arrived at without passing an end mark. -/
def Leads (lexemes rest : List Lexeme) : Prop :=
  ∃ used, lexemes = used ++ rest ∧ .finish ∉ tokens used

section Leads

variable {lexemes rest after : List Lexeme}

theorem Leads.refl (lexemes : List Lexeme) : Leads lexemes lexemes := ⟨[], rfl, by simp⟩

theorem Leads.trans (h : Leads lexemes rest) (h' : Leads rest after) : Leads lexemes after := by
  obtain ⟨used, rfl, hUsed⟩ := h
  obtain ⟨more, rfl, hMore⟩ := h'
  exact ⟨used ++ more, (List.append_assoc _ _ _).symm, by simp [hUsed, hMore]⟩

theorem Leads.tail {t : Token} (h : current lexemes = t) (hFinish : t ≠ .finish) :
    Leads lexemes lexemes.tail := by
  obtain ⟨lexeme, rfl, hCons⟩ := eq_cons_of_current h hFinish
  exact ⟨[lexeme], hCons, by simpa using hFinish.symm⟩

theorem Leads.length_le (h : Leads lexemes rest) : rest.length ≤ lexemes.length := by
  obtain ⟨used, rfl, -⟩ := h
  simp

/-- The end mark stays ahead. -/
theorem Leads.ended (h : Leads lexemes rest) (hEnded : Ended lexemes) : Ended rest := by
  obtain ⟨used, rfl, hUsed⟩ := h
  obtain ⟨before, last, hLast, hFinish⟩ := hEnded
  rcases List.append_eq_append_iff.mp hLast with ⟨more, rfl, hRest⟩ | ⟨more, rfl, hMore⟩
  · exact ⟨more, last, hRest, hFinish⟩
  · cases more with
    | nil => exact ⟨[], last, hMore.symm, hFinish⟩
    | cons l more =>
      obtain ⟨rfl, -⟩ := List.cons.inj hMore
      simp [hFinish] at hUsed

theorem Ended.exists_cons (h : Ended lexemes) : ∃ first more, lexemes = first :: more := by
  obtain ⟨before, last, rfl, -⟩ := h
  cases before with
  | nil => exact ⟨last, [], rfl⟩
  | cons first before => exact ⟨first, before ++ [last], rfl⟩

theorem leads_of_reads {φ : Phrase} (h : Reads lexemes rest φ) : Leads lexemes rest := by
  obtain ⟨used, rfl, hUsed⟩ := h
  exact ⟨used, rfl, hUsed.finish_not_mem fun _ => finish_not_mem_of_depthAfter?⟩

/-- The search for `??` passes no end mark. -/
theorem leads_of_coalesceFrom? {depth : Nat} (h : coalesceFrom? depth lexemes = some rest) :
    Leads lexemes rest ∧ current rest = .coalesce := by
  obtain ⟨passed, found, after, rfl, rfl, hFound, hPassed⟩ := coalesceFrom?_eq_some_iff.mp h
  exact ⟨⟨passed, rfl, finish_not_mem_of_depthAfter? hPassed⟩, hFound⟩

theorem leads_of_segments {path : Path} (h : segments lexemes = .done path rest) :
    Leads lexemes rest := by
  obtain ⟨used, rfl, hTrail⟩ := segments_trail h
  have hMark : ∀ t ∈ tokens used, t ≠ .finish :=
    hTrail.forall_mem fun t ht => by
      rintro rfl
      cases ht
  exact ⟨used, rfl, fun hMem => hMark _ hMem rfl⟩

end Leads

/-- What a reader leaves when it succeeds. A left operand of `??` may use up nothing. -/
structure Leaves (r : Reader) (lexemes rest : List Lexeme) : Prop where
  leads : Leads lexemes rest
  shorter : rest.length < lexemes.length ∨ r = .coalesceOperand ∧ current rest = .coalesce

/-- Answers that leave what readers may leave. -/
def Answers.Advance (answers : Answers) : Prop :=
  ∀ r lexemes a rest, answers r lexemes = .done a rest → Leaves r lexemes rest

theorem leaves_of_reads {r : Reader} {lexemes rest : List Lexeme} {φ : Phrase}
    (h : Reads lexemes rest φ) : Leaves r lexemes rest :=
  ⟨leads_of_reads h, .inl h.length_lt⟩

theorem advance_read (fuel : Nat) : Answers.Advance (Reader.read fuel) := by
  intro r lexemes a rest h
  cases r with
  | operand => exact leaves_of_reads ((readsWith fuel).operand h)
  | comparison => exact leaves_of_reads ((readsWith fuel).comparison h)
  | coalesceOperand =>
    rcases (readsWith fuel).coalesceOperand h with hReads | ⟨-, hFrom⟩
    · exact leaves_of_reads hReads
    · obtain ⟨hLeads, hCurrent⟩ := leads_of_coalesceFrom? hFrom
      exact ⟨hLeads, .inr ⟨rfl, hCurrent⟩⟩
  | coalesce => exact leaves_of_reads ((readsWith fuel).coalesce h)
  | ternary => exact leaves_of_reads ((readsWith fuel).ternary h)
  | arguments name =>
    obtain ⟨used, closing, rfl, hClosing, hUsed⟩ := (readsWith fuel).arguments h
    have hMark := hUsed.finish_not_mem fun _ => finish_not_mem_of_depthAfter?
    refine ⟨⟨used ++ [closing], by simp, ?_⟩, .inl ?_⟩
    · simp [hMark, hClosing]
    · rw [List.length_append, List.length_cons]
      omega

/-! ## Calls -/

/-- A reader may call another one at another place: further on, or at its own place a tighter
one. -/
structure Descends (r : Reader) (lexemes : List Lexeme) (r' : Reader) (lexemes' : List Lexeme) :
    Prop where
  leads : Leads lexemes lexemes'
  lower : lexemes'.length < lexemes.length ∨ lexemes' = lexemes ∧ r'.level < r.level

theorem Descends.bound_lt {r r' : Reader} {lexemes lexemes' : List Lexeme}
    (h : Descends r lexemes r' lexemes') : r'.bound lexemes' < r.bound lexemes := by
  have hLevel : r'.level ≤ 5 := by cases r' <;> simp [Reader.level]
  unfold Reader.bound
  rcases h.lower with hShorter | ⟨rfl, hTighter⟩ <;> omega

namespace Plan

variable {α β : Type} {answers : Answers} {P : Reader → List Lexeme → Prop}

/-- All calls are such. -/
def Calls (answers : Answers) (P : Reader → List Lexeme → Prop) (plan : Plan α) : Prop :=
  ∀ c ∈ plan.calls answers, P c.1 c.2

theorem Calls.ends (p : Parsed α) : Calls answers P (ends p) := List.forall_mem_nil _

theorem Calls.call {r : Reader} {lexemes : List Lexeme} {next : Parsed r.Result → Plan α}
    (h : P r lexemes) (hNext : Calls answers P (next (answers r lexemes))) :
    Calls answers P (call r lexemes next) := List.forall_mem_cons.mpr ⟨h, hNext⟩

theorem Calls.after {p : Parsed β} {next : β → List Lexeme → Plan α}
    (h : ∀ b rest, p = .done b rest → Calls answers P (next b rest)) :
    Calls answers P (after p next) := by
  cases p with
  | done b rest => exact h b rest rfl
  | fault f => exact .ends _
  | exhausted => exact .ends _

theorem Calls.callThen {r : Reader} {lexemes : List Lexeme}
    {next : r.Result → List Lexeme → Plan α} (h : P r lexemes)
    (hNext : ∀ a rest, answers r lexemes = .done a rest → Calls answers P (next a rest)) :
    Calls answers P (callThen r lexemes next) := .call h (.after hNext)

/-- What a plan comes to depends on the answers to its calls only. -/
theorem run_congr {answers' : Answers} (plan : Plan α)
    (h : plan.Calls answers fun r lexemes => answers r lexemes = answers' r lexemes) :
    plan.run answers = plan.run answers' := by
  induction plan with
  | ends p => rfl
  | call r lexemes next ih =>
    obtain ⟨hHere, hNext⟩ := List.forall_mem_cons.mp h
    rw [run, run, ← hHere]
    exact ih _ hNext

end Plan

section Descent

variable {answers : Answers} (hAdvance : answers.Advance) {lexemes rest : List Lexeme}

/-- A call at the own place. -/
theorem Descends.here {r r' : Reader} (h : r'.level < r.level) (lexemes : List Lexeme) :
    Descends r lexemes r' lexemes := ⟨.refl _, .inr ⟨rfl, h⟩⟩

/-- A call behind a token that is not the end mark. -/
theorem Descends.behind {r r' : Reader} {t : Token} (h : Leads lexemes rest)
    (ht : current rest = t) (hFinish : t ≠ .finish) : Descends r lexemes r' rest.tail := by
  have hShorter := length_tail_lt ht hFinish
  have hLess := h.length_le
  exact ⟨h.trans (.tail ht hFinish), .inl (by omega)⟩

include hAdvance

open Plan in
/-- Whatever a reader calls comes lower. -/
theorem calls_descend (r : Reader) (lexemes : List Lexeme) :
    (r.plan lexemes).Calls answers (Descends r lexemes) := by
  cases r with
  | ternary =>
    refine .callThen (.here (by decide) _) fun condition rest hCondition => ?_
    have hRest := (hAdvance _ _ _ _ hCondition).leads
    split
    · rename_i hQuestion
      refine .callThen (.behind hRest hQuestion (by simp)) fun yes afterYes hYes => ?_
      have hAfterYes := (hRest.trans (.tail hQuestion (by simp))).trans
        (hAdvance _ _ _ _ hYes).leads
      refine .after fun _ afterColon hColon => ?_
      obtain ⟨hCurrent, rfl⟩ := expect_eq_done hColon
      exact .callThen (.behind hAfterYes hCurrent (by simp)) fun _ _ _ => .ends _
    · exact .ends _
  | coalesce =>
    refine .callThen (.here (by decide) _) fun left rest hLeft => ?_
    have hRest := (hAdvance _ _ _ _ hLeft).leads
    split
    · exact .callThen (.behind hRest ‹_› (by simp)) fun _ _ _ => .ends _
    · exact .ends _
  | coalesceOperand =>
    refine .call (.here (by decide) _) ?_
    cases answers .comparison lexemes <;> exact .ends _
  | comparison =>
    refine .callThen (.here (by decide) _) fun left rest hLeft => ?_
    have hRest := (hAdvance _ _ _ _ hLeft).leads
    split
    · rename_i op hOp
      have hCurrent := comparison?_eq_some_iff.mp hOp
      exact .callThen (.behind hRest hCurrent (by cases op <;> simp [Comparison.token]))
        fun _ _ _ => .ends _
    · exact .ends _
  | operand =>
    rw [Reader.plan]
    have hHere := Leads.refl lexemes
    split
    · rename_i hParen
      refine .callThen (.behind hHere hParen (by simp)) fun part rest _ => ?_
      exact .after fun _ _ _ => .ends _
    · rename_i name hName
      have hTail : Leads lexemes lexemes.tail := .tail hName (by simp)
      split
      · rename_i hOpening
        dsimp only
        split
        · exact .ends _
        · exact .callThen (.behind hTail hOpening (by simp)) fun _ _ _ => .ends _
      · exact .ends _
    · exact .ends _
  | arguments name =>
    refine .callThen (.here (Nat.lt_succ_self _) _) fun arg rest hArg => ?_
    have hRest := (hAdvance _ _ _ _ hArg).leads
    split
    · exact .callThen (.behind hRest ‹_› (by simp)) fun _ _ _ => .ends _
    · exact .ends _
    · exact .ends _
    · exact .ends _

end Descent

/-! ## The solution of the equations -/

/-- Any two bounds that are large enough give the same. -/
theorem read_eq_of_bound_le {fuel fuel' : Nat} {r : Reader} {lexemes : List Lexeme}
    (h : r.bound lexemes ≤ fuel) (h' : r.bound lexemes ≤ fuel') :
    r.read fuel lexemes = r.read fuel' lexemes := by
  induction fuel generalizing fuel' r lexemes with
  | zero => cases h
  | succ fuel ih =>
    cases fuel' with
    | zero => cases h'
    | succ fuel' =>
      rw [read_succ, read_succ]
      refine Plan.run_congr _ fun c hc => ?_
      have hLess := (calls_descend (advance_read fuel) r lexemes c hc).bound_lt
      exact ih (by omega) (by omega)

theorem read_ne_exhausted {fuel : Nat} {r : Reader} {lexemes : List Lexeme}
    (h : r.bound lexemes ≤ fuel) : r.read fuel lexemes ≠ .exhausted := by
  have hEnough := suffices_of_steps fuel
  cases r with
  | operand => exact hEnough.operand lexemes h
  | comparison => exact hEnough.comparison lexemes h
  | coalesceOperand => exact hEnough.coalesceOperand lexemes h
  | coalesce => exact hEnough.coalesce lexemes h
  | ternary => exact hEnough.ternary lexemes h
  | arguments name => exact hEnough.arguments name lexemes h

/-- Reads without a bound on steps. -/
def Reader.result (r : Reader) (lexemes : List Lexeme) : Parsed r.Result :=
  r.read (r.bound lexemes) lexemes

/-- The equations of the readers without a bound on steps. -/
def Answers.Solve (answers : Answers) : Prop :=
  ∀ r lexemes, answers r lexemes = (r.plan lexemes).run answers

theorem solve_result : Answers.Solve Reader.result := by
  intro r lexemes
  rw [Reader.result, read_eq_of_bound_le (Nat.le_refl _) (Nat.le_succ (r.bound lexemes)), read_succ]
  refine Plan.run_congr _ fun c hc => ?_
  have hLess := (calls_descend (advance_read _) r lexemes c hc).bound_lt
  exact read_eq_of_bound_le (Nat.le_of_lt hLess) (Nat.le_refl _)

theorem eq_result_of_solve {answers : Answers} (h : answers.Solve) : answers = Reader.result := by
  have hAdvance : Answers.Advance Reader.result := fun r lexemes => advance_read _ r lexemes
  funext r lexemes
  induction hBound : r.bound lexemes using Nat.strongRecOn generalizing r lexemes with
  | ind n ih =>
    subst hBound
    rw [h r lexemes, solve_result r lexemes]
    refine (Plan.run_congr _ fun c hc => ?_).symm
    have hLess := (calls_descend hAdvance r lexemes c hc).bound_lt
    exact (ih _ hLess c.1 c.2 rfl).symm

end TextTemplate.Parser
