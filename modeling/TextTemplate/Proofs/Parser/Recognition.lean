import TextTemplate.Proofs.Parser.Steps

/-!
# The parser recognises the grammar

A run of tokens that the strict grammar derives is read as what it is derived as, whatever stands
behind it, if that cannot belong to the run. The search for `??` is never started there.

* `readable_of_derives`: the statement for all readers, by induction on the derivation.
* `recognises_grammar`: derived expressions are read, and without `??` nothing else is.
-/

namespace TextTemplate.Parser

open Grammar

/-- The reader arrives at the result, given steps enough. -/
def Arrives {α : Type} (r : Parsed α) (a : α) (rest : List Lexeme) : Prop :=
  r ≠ .exhausted → r = .done a rest

theorem Arrives.done {α : Type} (a : α) (rest : List Lexeme) : Arrives (.done a rest) a rest :=
  fun _ => rfl

theorem Arrives.exhausted {α : Type} (a : α) (rest : List Lexeme) :
    Arrives .exhausted a rest := fun h => absurd rfl h

theorem Arrives.andThen {α β : Type} {r : Parsed α} {next : α → List Lexeme → Parsed β} {a : α}
    {b : β} {middle rest : List Lexeme} (hFirst : Arrives r a middle)
    (hNext : Arrives (next a middle) b rest) : Arrives (r.andThen next) b rest := by
  cases r with
  | exhausted => exact Arrives.exhausted b rest
  | fault f => cases hFirst (by simp)
  | done a' middle' =>
    cases hFirst (by simp)
    exact hNext

/-- An operand of `??` that can be read is read, unless it stops short of a `??` to go on from. -/
theorem arrives_coalesceOperand {ls rest : List Lexeme} {p : Part}
    (h : ∀ fuel, Arrives (comparison fuel ls) p rest)
    (hStop : endsOperand (current rest) = true ∨ coalesceFrom? 0 ls = none) (fuel : Nat) :
    Arrives (coalesceOperand fuel ls) p rest := by
  cases fuel with
  | zero => exact Arrives.exhausted _ _
  | succ fuel =>
    rw [coalesceOperand]
    have hArrives := h fuel
    split
    · rename_i hDone
      cases hArrives (by rw [hDone]; simp) ▸ hDone
      rcases hStop with hEnds | hFrom
      · rw [if_pos hEnds]
        exact Arrives.done _ _
      · split
        · exact Arrives.done _ _
        · rw [hFrom]
          exact Arrives.done _ _
    · rename_i hFault
      cases hArrives (by rw [hFault]; simp) ▸ hFault
    · exact Arrives.exhausted _ _

theorem arrives_coalesce {ls rest : List Lexeme} {p : Part}
    (h : ∀ fuel, Arrives (coalesceOperand fuel ls) p rest) (hStop : current rest ≠ .coalesce)
    (fuel : Nat) : Arrives (coalesce fuel ls) p rest := by
  cases fuel with
  | zero => exact Arrives.exhausted _ _
  | succ fuel =>
    rw [coalesce]
    refine (h fuel).andThen ?_
    rw [if_neg hStop]
    exact Arrives.done _ _

theorem arrives_ternary {ls rest : List Lexeme} {p : Part}
    (h : ∀ fuel, Arrives (coalesce fuel ls) p rest) (hStop : current rest ≠ .question)
    (fuel : Nat) : Arrives (ternary fuel ls) p rest := by
  cases fuel with
  | zero => exact Arrives.exhausted _ _
  | succ fuel =>
    rw [ternary]
    refine (h fuel).andThen ?_
    rw [if_neg hStop]
    exact Arrives.done _ _

/-! ## What may follow -/

/-- The token goes on with a path or starts the arguments of a call. -/
def extendsOperand : Token → Bool
  | .dot | .leftBracket | .leftParen => true
  | _ => false

theorem extendsOperand_of_endsOperand {t : Token} (h : endsOperand t = true) :
    extendsOperand t = false := by
  cases t <;> first | rfl | cases h

theorem comparison?_of_endsOperand {t : Token} (h : endsOperand t = true) :
    comparison? t = none := by
  cases t <;> first | rfl | cases h

/-- The run of tokens is read as the phrase where a token that cannot belong to it follows. -/
def Readable (ts : List Token) : Phrase → Prop
  | .operand p => ∀ fuel ls rest, tokens ls = ts → extendsOperand (current rest) = false →
      Arrives (operand fuel (ls ++ rest)) p rest
  | .comparison p => ∀ fuel ls rest, tokens ls = ts → endsOperand (current rest) = true →
      Arrives (comparison fuel (ls ++ rest)) p rest
  | .coalesce p => ∀ fuel ls rest, tokens ls = ts → endsOperand (current rest) = true →
      current rest ≠ .coalesce → Arrives (coalesce fuel (ls ++ rest)) p rest
  | .ternary p => ∀ fuel ls rest, tokens ls = ts → endsOperand (current rest) = true →
      current rest ≠ .coalesce → current rest ≠ .question →
      Arrives (ternary fuel (ls ++ rest)) p rest
  | .arguments ps => ∀ name fuel ls closing rest, tokens ls = ts → closing.token = .rightParen →
      Arrives (arguments name fuel (ls ++ closing :: rest)) ps rest

theorem segments_trail_append {ts : List Token} {path : Path} (h : Trail ts path)
    {ls rest : List Lexeme} (hTokens : tokens ls = ts)
    (hRest : extendsOperand (current rest) = false) :
    segments (ls ++ rest) = .done path rest := by
  induction h generalizing ls with
  | nil =>
    obtain rfl := List.map_eq_nil_iff.mp hTokens
    cases rest with
    | nil => rfl
    | cons lexeme rest =>
      rw [current] at hRest
      rw [List.nil_append, segments.eq_def]
      dsimp only
      split
      · rename_i hDot
        rw [hDot] at hRest
        cases hRest
      · rename_i hBracket
        rw [hBracket] at hRest
        cases hRest
      · rfl
  | field hField _ ih =>
    obtain ⟨dot, _, rfl, hDot, hTokens⟩ := tokens_eq_cons_iff.mp hTokens
    obtain ⟨field, ls, rfl, rfl, hTokensLs⟩ := tokens_eq_cons_iff.mp hTokens
    simp only [List.cons_append, segments, hDot, fieldName?_eq_some_iff.mpr hField]
    rw [ih hTokensLs]
    rfl
  | @index x n ts path hWhole _ ih =>
    obtain ⟨opening, _, rfl, hOpening, hTokens⟩ := tokens_eq_cons_iff.mp hTokens
    obtain ⟨number, _, rfl, hNumber, hTokens⟩ := tokens_eq_cons_iff.mp hTokens
    obtain ⟨closing, ls, rfl, hClosing, hTokens⟩ := tokens_eq_cons_iff.mp hTokens
    have hIndex : indexOf? x = some (min n (Path.indexLimit - 1)) :=
      indexOf?_eq_some_iff.mpr ⟨n, hWhole, rfl⟩
    simp only [List.cons_append, segments, hOpening, hNumber, hClosing, hIndex, if_true]
    rw [ih hTokens]
    rfl

/-- The token ends an expression in brackets, an argument or the middle of a conditional. -/
def closes : Token → Bool
  | .rightParen | .comma | .colon => true
  | _ => false

/-! ## One step for each rule -/

section Rules

variable {ts us vs : List Token} {p q r : Part}

theorem Readable.closed (h : Readable ts (.ternary p)) (fuel : Nat) {ls rest : List Lexeme}
    (hTokens : tokens ls = ts) {closing : Lexeme} (hClosing : closes closing.token = true) :
    Arrives (ternary fuel (ls ++ closing :: rest)) p (closing :: rest) := by
  refine h fuel ls _ hTokens ?_ ?_ ?_ <;> rw [current]
  · cases hToken : closing.token <;> first | rfl | (rw [hToken] at hClosing; cases hClosing)
  · intro hCoalesce
    rw [hCoalesce] at hClosing
    cases hClosing
  · intro hQuestion
    rw [hQuestion] at hClosing
    cases hClosing

theorem Readable.conditional (hc : Readable ts (.coalesce p)) (hy : Readable us (.ternary q))
    (hn : Readable vs (.ternary r)) :
    Readable (ts ++ .question :: (us ++ .colon :: vs)) (.ternary (.ternary p q r)) := by
  intro fuel ls rest hTokens hEnds hCoalesce hQuestion
  obtain ⟨c, _, rfl, hTokensC, hTokens⟩ := tokens_eq_append_iff.mp hTokens
  obtain ⟨question, _, rfl, hMark, hTokens⟩ := tokens_eq_cons_iff.mp hTokens
  obtain ⟨y, _, rfl, hTokensY, hTokens⟩ := tokens_eq_append_iff.mp hTokens
  obtain ⟨colon, n, rfl, hColon, hTokensN⟩ := tokens_eq_cons_iff.mp hTokens
  simp only [List.append_assoc, List.cons_append]
  cases fuel with
  | zero => exact Arrives.exhausted _ _
  | succ fuel =>
    rw [ternary]
    refine (hc fuel c _ hTokensC ?_ ?_).andThen ?_
    · rw [current, hMark]
      rfl
    · rw [current, hMark]
      simp
    · rw [if_pos (by rw [current, hMark]), List.tail_cons]
      refine (hy.closed fuel hTokensY (by rw [hColon]; rfl)).andThen ?_
      have hExpect : expect .colon "':' in conditional expression" (colon :: (n ++ rest))
          = .done () (n ++ rest) := by
        rw [expect, current, if_pos hColon, List.tail_cons]
      rw [hExpect]
      exact (hn fuel n rest hTokensN hEnds hCoalesce hQuestion).andThen (Arrives.done _ _)

theorem Readable.unconditional (h : Readable ts (.coalesce p)) : Readable ts (.ternary p) :=
  fun fuel ls rest hTokens hEnds hCoalesce hQuestion =>
    arrives_ternary (fun fuel => h fuel ls rest hTokens hEnds hCoalesce) hQuestion fuel

/-- An operand of `??` that can be read is read, and the search for `??` is not started. -/
theorem Readable.coalesceOperand (h : Readable ts (.comparison p)) {ls rest : List Lexeme}
    (hTokens : tokens ls = ts) (hEnds : endsOperand (current rest) = true) (fuel : Nat) :
    Arrives (coalesceOperand fuel (ls ++ rest)) p rest :=
  arrives_coalesceOperand (fun fuel => h fuel ls rest hTokens hEnds) (Or.inl hEnds) fuel

theorem Readable.coalesce (hl : Readable ts (.comparison p)) (hr : Readable us (.coalesce q)) :
    Readable (ts ++ .coalesce :: us) (.coalesce (.coalesce p q)) := by
  intro fuel ls rest hTokens hEnds hCoalesce
  obtain ⟨l, _, rfl, hTokensL, hTokens⟩ := tokens_eq_append_iff.mp hTokens
  obtain ⟨mark, r, rfl, hMark, hTokensR⟩ := tokens_eq_cons_iff.mp hTokens
  simp only [List.append_assoc, List.cons_append]
  cases fuel with
  | zero => exact Arrives.exhausted _ _
  | succ fuel =>
    rw [Parser.coalesce]
    refine (hl.coalesceOperand hTokensL ?_ fuel).andThen ?_
    · rw [current, hMark]
      rfl
    · rw [if_pos (by rw [current, hMark]), List.tail_cons]
      exact (hr fuel r rest hTokensR hEnds hCoalesce).andThen (Arrives.done _ _)

theorem Readable.single (h : Readable ts (.comparison p)) : Readable ts (.coalesce p) :=
  fun fuel _ _ hTokens hEnds hCoalesce =>
    arrives_coalesce (h.coalesceOperand hTokens hEnds) hCoalesce fuel

/-- Two compared operands are read even where a further operator follows. -/
theorem Readable.compare {op : Comparison} (hl : Readable ts (.operand p))
    (hr : Readable us (.operand q)) (fuel : Nat) {ls rest : List Lexeme}
    (hTokens : tokens ls = ts ++ op.token :: us) (hRest : extendsOperand (current rest) = false) :
    Arrives (Parser.comparison fuel (ls ++ rest)) (.compare p op q) rest := by
  obtain ⟨l, _, rfl, hTokensL, hTokens⟩ := tokens_eq_append_iff.mp hTokens
  obtain ⟨operator, r, rfl, hOp, hTokensR⟩ := tokens_eq_cons_iff.mp hTokens
  simp only [List.append_assoc, List.cons_append]
  cases fuel with
  | zero => exact Arrives.exhausted _ _
  | succ fuel =>
    rw [Parser.comparison]
    refine (hl fuel l _ hTokensL ?_).andThen ?_
    · rw [current, hOp]
      cases op <;> rfl
    · have hFound : comparison? (current (operator :: (r ++ rest))) = some op :=
        comparison?_eq_some_iff.mpr hOp
      simp only [hFound, List.tail_cons]
      exact (hr fuel r rest hTokensR hRest).andThen (Arrives.done _ _)

theorem Readable.comparison (op : Comparison) (hl : Readable ts (.operand p))
    (hr : Readable us (.operand q)) :
    Readable (ts ++ op.token :: us) (.comparison (.compare p op q)) :=
  fun fuel _ _ hTokens hEnds =>
    hl.compare hr fuel hTokens (extendsOperand_of_endsOperand hEnds)

theorem Readable.uncompared (h : Readable ts (.operand p)) : Readable ts (.comparison p) := by
  intro fuel ls rest hTokens hEnds
  cases fuel with
  | zero => exact Arrives.exhausted _ _
  | succ fuel =>
    rw [Parser.comparison]
    refine (h fuel ls rest hTokens (extendsOperand_of_endsOperand hEnds)).andThen ?_
    rw [comparison?_of_endsOperand hEnds]
    exact Arrives.done _ _

theorem Readable.parentheses (h : Readable ts (.ternary p)) :
    Readable (.leftParen :: ts ++ [.rightParen]) (.operand p) := by
  intro fuel ls rest hTokens _
  obtain ⟨opening, _, rfl, hOpening, hTokens⟩ := tokens_eq_cons_iff.mp hTokens
  obtain ⟨inside, _, rfl, hInside, hTokens⟩ := tokens_eq_append_iff.mp hTokens
  obtain ⟨closing, _, rfl, hClosing, hNil⟩ := tokens_eq_cons_iff.mp hTokens
  obtain rfl := List.map_eq_nil_iff.mp hNil
  simp only [List.append_assoc, List.cons_append, List.nil_append]
  cases fuel with
  | zero => exact Arrives.exhausted _ _
  | succ fuel =>
    simp only [operand, current, hOpening, List.tail_cons]
    refine (h.closed fuel hInside (by rw [hClosing]; rfl)).andThen ?_
    rw [expect, current, if_pos hClosing]
    exact Arrives.done _ _

theorem Readable.lastArgument (h : Readable ts (.ternary p)) : Readable ts (.arguments [p]) := by
  intro name fuel ls closing rest hTokens hClosing
  cases fuel with
  | zero => exact Arrives.exhausted _ _
  | succ fuel =>
    rw [arguments]
    refine (h.closed fuel hTokens (by rw [hClosing]; rfl)).andThen ?_
    simp only [current, hClosing]
    exact Arrives.done _ _

theorem Readable.moreArguments {ps : List Part} (h : Readable ts (.ternary p))
    (hMore : Readable us (.arguments ps)) :
    Readable (ts ++ .comma :: us) (.arguments (p :: ps)) := by
  intro name fuel ls closing rest hTokens hClosing
  obtain ⟨arg, _, rfl, hArg, hTokens⟩ := tokens_eq_append_iff.mp hTokens
  obtain ⟨comma, more, rfl, hComma, hTokensMore⟩ := tokens_eq_cons_iff.mp hTokens
  simp only [List.append_assoc, List.cons_append]
  cases fuel with
  | zero => exact Arrives.exhausted _ _
  | succ fuel =>
    rw [arguments]
    refine (h.closed fuel hArg (by rw [hComma]; rfl)).andThen ?_
    simp only [current, hComma, List.tail_cons]
    exact (hMore name fuel more closing rest hTokensMore hClosing).andThen (Arrives.done _ _)

/-- A token that is an operand by itself. -/
theorem Readable.token {t : Token}
    (h : ∀ fuel lexeme rest, lexeme.token = t →
      operand (fuel + 1) (lexeme :: rest) = .done p rest) : Readable [t] (.operand p) := by
  intro fuel ls rest hTokens _
  obtain ⟨lexeme, _, rfl, hToken, hNil⟩ := tokens_eq_cons_iff.mp hTokens
  obtain rfl := List.map_eq_nil_iff.mp hNil
  cases fuel with
  | zero => exact Arrives.exhausted _ _
  | succ fuel =>
    rw [List.singleton_append, h fuel lexeme rest hToken]
    exact Arrives.done _ _

theorem Readable.negative (x : Number) :
    Readable [.minus, .number x] (.operand (.literal (.number x.neg))) := by
  intro fuel ls rest hTokens _
  obtain ⟨minus, _, rfl, hMinus, hTokens⟩ := tokens_eq_cons_iff.mp hTokens
  obtain ⟨number, _, rfl, hNumber, hNil⟩ := tokens_eq_cons_iff.mp hTokens
  obtain rfl := List.map_eq_nil_iff.mp hNil
  cases fuel with
  | zero => exact Arrives.exhausted _ _
  | succ fuel =>
    simp only [List.cons_append, List.nil_append, operand, current, hMinus, List.tail_cons, hNumber]
    exact Arrives.done _ _

theorem Readable.path {root : String} {path : Path} (h : Trail ts path) :
    Readable (.name root :: ts)
      (.operand (.variable (String.ofList (Path.join (.key root :: path))))) := by
  intro fuel ls rest hTokens hRest
  obtain ⟨first, ls, rfl, hRoot, hTokens⟩ := tokens_eq_cons_iff.mp hTokens
  have hNoCall : current (ls ++ rest) ≠ .leftParen := by
    intro hParen
    cases h with
    | nil =>
      obtain rfl := List.map_eq_nil_iff.mp hTokens
      rw [List.nil_append] at hParen
      rw [hParen] at hRest
      cases hRest
    | field =>
      obtain ⟨dot, _, rfl, hDot, -⟩ := tokens_eq_cons_iff.mp hTokens
      cases hDot.symm.trans hParen
    | index =>
      obtain ⟨opening, _, rfl, hOpening, -⟩ := tokens_eq_cons_iff.mp hTokens
      cases hOpening.symm.trans hParen
  cases fuel with
  | zero => exact Arrives.exhausted _ _
  | succ fuel =>
    have hName : current (first :: (ls ++ rest)) = .name root := hRoot
    have hNext : current (first :: (ls ++ rest)).tail ≠ .leftParen := hNoCall
    rw [List.cons_append, operand]
    simp only [hName]
    rw [if_neg hNext, List.tail_cons, pathPart, segments_trail_append h hTokens hRest]
    exact Arrives.done _ _

/-- A call whose arguments are read up to its closing parenthesis. -/
theorem Readable.parens {name : String} {args : List Part}
    (hArgs : Derives NoRecovery ts (.arguments args)) (h : Readable ts (.arguments args))
    (hCall : ∀ opening rest, callOf name opening args rest = .done p rest) :
    Readable (.name name :: (.leftParen :: ts ++ [.rightParen])) (.operand p) := by
  intro fuel ls rest hTokens _
  obtain ⟨first, _, rfl, hName, hTokens⟩ := tokens_eq_cons_iff.mp hTokens
  obtain ⟨opening, _, rfl, hOpening, hTokens⟩ := tokens_eq_cons_iff.mp hTokens
  obtain ⟨inside, _, rfl, hInside, hTokens⟩ := tokens_eq_append_iff.mp hTokens
  obtain ⟨closing, _, rfl, hClosing, hNil⟩ := tokens_eq_cons_iff.mp hTokens
  obtain rfl := List.map_eq_nil_iff.mp hNil
  simp only [List.append_assoc, List.cons_append, List.nil_append]
  -- The arguments are not empty and do not start with a closing parenthesis.
  have hSome : current (inside ++ closing :: rest) ≠ .rightParen := by
    have hNested := hArgs.nestedWith fun _ hg => hg.elim
    cases inside with
    | nil => exact absurd hInside.symm hArgs.ne_nil
    | cons lexeme inside =>
      intro hParen
      subst hInside
      have hOpen := hNested.of_cons.1
      rw [show lexeme.token = .rightParen from hParen] at hOpen
      cases hOpen
  cases fuel with
  | zero => exact Arrives.exhausted _ _
  | succ fuel =>
    have hFirst : current (first :: opening :: (inside ++ closing :: rest)) = .name name := hName
    have hParen : current (first :: opening :: (inside ++ closing :: rest)).tail = .leftParen :=
      hOpening
    have hInner :
        current (first :: opening :: (inside ++ closing :: rest)).tail.tail ≠ .rightParen := hSome
    rw [operand]
    simp only [hFirst]
    rw [if_pos hParen, if_neg hInner]
    refine (h name fuel inside closing rest hInside hClosing).andThen ?_
    rw [hCall]
    exact Arrives.done _ _

theorem Readable.emptyCall {name : String} (hName : name ≠ "forEach") :
    Readable [.name name, .leftParen, .rightParen] (.operand (.call name [])) := by
  intro fuel ls rest hTokens _
  obtain ⟨first, _, rfl, hFirst, hTokens⟩ := tokens_eq_cons_iff.mp hTokens
  obtain ⟨opening, _, rfl, hOpening, hTokens⟩ := tokens_eq_cons_iff.mp hTokens
  obtain ⟨closing, _, rfl, hClosing, hNil⟩ := tokens_eq_cons_iff.mp hTokens
  obtain rfl := List.map_eq_nil_iff.mp hNil
  cases fuel with
  | zero => exact Arrives.exhausted _ _
  | succ fuel =>
    simp only [List.cons_append, List.nil_append, operand, current, hFirst, List.tail_cons,
      hOpening, hClosing, if_true, callOf, if_neg hName]
    exact Arrives.done _ _

end Rules

theorem callOf_of_ne {name : String} (hName : name ≠ "forEach") (args : List Part) (opening : Nat)
    (rest : List Lexeme) : callOf name opening args rest = .done (.call name args) rest := by
  rw [callOf, if_neg hName]

theorem callOf_forEach {args : List Part} {p : Part} (h : forEachOf args = .ok p) (opening : Nat)
    (rest : List Lexeme) : callOf "forEach" opening args rest = .done p rest := by
  rw [callOf, if_pos rfl, h]

/-- What is derived is read. -/
theorem readable_of_derives {ts : List Token} {φ : Phrase} (h : Derives NoRecovery ts φ) :
    Readable ts φ := by
  induction h with
  | conditional _ _ _ ihc ihy ihn => exact ihc.conditional ihy ihn
  | unconditional _ ih => exact ih.unconditional
  | coalesce _ _ ihl ihr => exact ihl.coalesce ihr
  | recovered hl => exact hl.elim
  | single _ ih => exact ih.single
  | comparison op _ _ ihl ihr => exact Readable.comparison op ihl ihr
  | uncompared _ ih => exact ih.uncompared
  | parentheses _ ih => exact ih.parentheses
  | number | text | boolean | null =>
    exact Readable.token fun fuel lexeme rest hToken => by
      simp only [operand, current, hToken, List.tail_cons]
  | negative x => exact Readable.negative x
  | path hTrail => exact Readable.path hTrail
  | emptyCall hName => exact Readable.emptyCall hName
  | call hName hArgs ih => exact ih.parens hArgs (callOf_of_ne hName _)
  | forEach hItem hArgs ih =>
    exact ih.parens hArgs
      (callOf_forEach (forEachOf_eq_ok_iff.mpr (Or.inl ⟨_, _, _, rfl, hItem, rfl⟩)))
  | forEachIndexed hItem hIndex hArgs ih =>
    exact ih.parens hArgs
      (callOf_forEach (forEachOf_eq_ok_iff.mpr (Or.inr ⟨_, _, _, _, rfl, hItem, hIndex, rfl⟩)))
  | lastArgument _ ih => exact ih.lastArgument
  | moreArguments _ _ iht ihu => exact iht.moreArguments ihu

/-! ## Whole expressions -/

theorem expression_of_derives {lexemes : List Lexeme} {p : Part}
    (h : Derives NoRecovery (tokens lexemes) (.ternary p)) (last : Nat) :
    expression (lexemes ++ [⟨.finish, last⟩]) = .ok p := by
  refine expression_eq_ok_iff.mpr ⟨[⟨.finish, last⟩], ?_, rfl⟩
  refine readable_of_derives h _ lexemes [⟨.finish, last⟩] rfl rfl ?_ ?_
    (ternary_fuelFor_ne_exhausted _)
  · simp [current]
  · simp [current]

theorem derives_of_expression {lexemes : List Lexeme} {last : Nat} {p : Part}
    (hCoalesce : .coalesce ∉ tokens lexemes) (hFinish : .finish ∉ tokens lexemes)
    (h : expression (lexemes ++ [⟨.finish, last⟩]) = .ok p) :
    Derives NoRecovery (tokens lexemes) (.ternary p) :=
  (expression_derives (tokens_append _ _) hFinish h).strict hCoalesce

/-- A second comparison without parentheses is not read, and without `??` there is no way back. -/
theorem chained_refused {l m rest : List Token} {p q : Part} {op op' : Comparison}
    {lexemes : List Lexeme} (hl : Derives NoRecovery l (.operand p))
    (hm : Derives NoRecovery m (.operand q)) (hCoalesce : .coalesce ∉ tokens lexemes)
    (hTokens : tokens lexemes = l ++ op.token :: m ++ op'.token :: rest) (r : Part) :
    expression lexemes ≠ .ok r := by
  intro h
  obtain ⟨after, hTernary, hFinish⟩ := expression_eq_ok_iff.mp h
  obtain ⟨compared, others, rfl, hCompared, hOthers⟩ := tokens_eq_append_iff.mp hTokens
  have hOperator : current others = op'.token := by
    obtain ⟨operator, _, rfl, hOperator, -⟩ := tokens_eq_cons_iff.mp hOthers
    exact hOperator
  have hExtends : extendsOperand (current others) = false := by
    rw [hOperator]
    cases op' <;> rfl
  have hFrom : coalesceFrom? 0 (compared ++ others) = none := by
    refine Option.eq_none_iff_forall_ne_some.mpr fun found hFound => ?_
    obtain ⟨passed, mark, tail, hEq, -, hMark, -⟩ := coalesceFrom?_eq_some_iff.mp hFound
    simp [hEq, hMark] at hCoalesce
  -- Every reader above the comparison stops at the second operator.
  have hComparison (fuel : Nat) :
      Arrives (comparison fuel (compared ++ others)) (.compare p op q) others :=
    (readable_of_derives hl).compare (readable_of_derives hm) fuel hCompared hExtends
  have hNoCoalesce : current others ≠ .coalesce := by
    rw [hOperator]
    cases op' <;> simp [Comparison.token]
  have hNoQuestion : current others ≠ .question := by
    rw [hOperator]
    cases op' <;> simp [Comparison.token]
  have hOperand := arrives_coalesceOperand hComparison (Or.inr hFrom)
  have hAll := arrives_ternary (arrives_coalesce hOperand hNoCoalesce) hNoQuestion
  cases (hAll _ (by rw [hTernary]; simp)).symm.trans hTernary
  rw [hOperator] at hFinish
  cases op' <;> cases hFinish

/-- The parser recognises the grammar. Every derived run of tokens is read as what it is derived as;
every run without `??` that is read is derived. So such a run has matching brackets, neither
starts nor ends with an operator, and does not compare twice without parentheses. -/
theorem recognises_grammar (lexemes : List Lexeme) (last : Nat) :
    (∀ p, Derives NoRecovery (tokens lexemes) (.ternary p) →
      expression (lexemes ++ [⟨.finish, last⟩]) = .ok p) ∧
    (.coalesce ∉ tokens lexemes → .finish ∉ tokens lexemes → ∀ p,
      expression (lexemes ++ [⟨.finish, last⟩]) = .ok p →
        Derives NoRecovery (tokens lexemes) (.ternary p) ∧
        Nested (tokens lexemes) ∧
        (∀ t, (tokens lexemes).head? = some t → isInfix t = false) ∧
        (∀ t, (tokens lexemes).getLast? = some t → isInfix t = false) ∧
        ¬ ∃ l m rest q q' op op', Derives NoRecovery l (.operand q) ∧
          Derives NoRecovery m (.operand q') ∧
          tokens lexemes = l ++ Comparison.token op :: m ++ Comparison.token op' :: rest) := by
  refine ⟨fun p h => expression_of_derives h last, fun hCoalesce hFinish p h => ?_⟩
  have hDerives := derives_of_expression hCoalesce hFinish h
  refine ⟨hDerives, (hDerives.nestedWith fun _ hg => hg.elim).nested, ?_, ?_, ?_⟩
  · exact fun t ht => hDerives.isInfix_head ht
  · exact fun t ht => hDerives.isInfix_last ht
  · rintro ⟨l, m, rest, q, q', op, op', hl, hm, hTokens⟩
    have hAll : tokens (lexemes ++ [⟨.finish, last⟩])
        = l ++ op.token :: m ++ op'.token :: (rest ++ [.finish]) := by
      simp [hTokens]
    refine chained_refused hl hm ?_ hAll p h
    simpa using hCoalesce

/-- `true == false ? 'x' : null` is read, and is derived as what it is read as. -/
theorem recognises_conditional :
    let lexemes : List Lexeme := [⟨.boolean true, 0⟩, ⟨.eq, 5⟩, ⟨.boolean false, 8⟩,
      ⟨.question, 14⟩, ⟨.text "x", 16⟩, ⟨.colon, 20⟩, ⟨.null, 22⟩]
    let p : Part := .ternary (.compare (.literal (.boolean true)) .eq (.literal (.boolean false)))
      (.literal (.text "x")) (.literal .null)
    expression (lexemes ++ [⟨.finish, 26⟩]) = .ok p ∧
      .coalesce ∉ tokens lexemes ∧ .finish ∉ tokens lexemes ∧
      Derives NoRecovery (tokens lexemes) (.ternary p) := by
  intro lexemes p
  have hOperand (t : Token) (q : Part) (h : Derives NoRecovery [t] (.operand q)) :
      Derives NoRecovery [t] (.ternary q) := .unconditional (.single (.uncompared h))
  have hDerives : Derives NoRecovery (tokens lexemes) (.ternary p) :=
    .conditional (.single (.comparison .eq (.boolean true) (.boolean false)))
      (hOperand _ _ (.text "x")) (hOperand _ _ .null)
  have hRead := (recognises_grammar lexemes 26).1 p hDerives
  have hCoalesce : .coalesce ∉ tokens lexemes := by decide
  have hFinish : .finish ∉ tokens lexemes := by decide
  exact ⟨hRead, hCoalesce, hFinish,
    ((recognises_grammar lexemes 26).2 hCoalesce hFinish p hRead).1⟩

end TextTemplate.Parser
