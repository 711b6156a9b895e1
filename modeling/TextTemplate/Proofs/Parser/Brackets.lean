import TextTemplate.Template.Parser

/-!
# Brackets in runs of tokens

The brackets of a run of tokens are read in two ways. `stackAfter?` pairs every bracket with one of
its own kind, as the grammar does. `depthAfter?` only counts open brackets of both kinds together,
as the search for the next `??` does: there a bracket may be closed by the other kind, and a `]`
that closes nothing is passed over.

* `coalesceFrom?_eq_some_iff`: the search passes over exactly the runs that `depthAfter?` accepts.
* `depthAfter?_of_stackAfter?`: properly nested runs are passed over.
* `nested_of_depthAfter?`: inside a properly nested run, only properly nested runs are passed over.
-/

namespace TextTemplate.Parser

/-- The tokens of lexemes. -/
def tokens (lexemes : List Lexeme) : List Token := lexemes.map Lexeme.token

@[simp] theorem tokens_nil : tokens [] = [] := rfl

@[simp] theorem tokens_cons (lexeme : Lexeme) (lexemes : List Lexeme) :
    tokens (lexeme :: lexemes) = lexeme.token :: tokens lexemes := rfl

@[simp] theorem tokens_append (ls ms : List Lexeme) :
    tokens (ls ++ ms) = tokens ls ++ tokens ms := List.map_append

theorem tokens_eq_append_iff {lexemes : List Lexeme} {ts us : List Token} :
    tokens lexemes = ts ++ us ↔
      ∃ ls ms, lexemes = ls ++ ms ∧ tokens ls = ts ∧ tokens ms = us := List.map_eq_append_iff

theorem tokens_eq_cons_iff {lexemes : List Lexeme} {t : Token} {ts : List Token} :
    tokens lexemes = t :: ts ↔
      ∃ lexeme rest, lexemes = lexeme :: rest ∧ lexeme.token = t ∧ tokens rest = ts :=
  List.map_eq_cons_iff

/-! ## Properly nested runs -/

/-- The bracket that closes an opening bracket. -/
def closer? : Token → Option Token
  | .leftParen => some .rightParen
  | .leftBracket => some .rightBracket
  | _ => none

def isClosing : Token → Bool
  | .rightParen | .rightBracket => true
  | _ => false

/-- The closing brackets that are awaited, innermost first, after one more token. None if the token
closes a bracket of the other kind or none at all, or if it stands outside of all brackets and is
not allowed there. -/
def stackStep (allowed : Token → Bool) (stack : List Token) (t : Token) : Option (List Token) :=
  match closer? t with
  | some awaited => some (awaited :: stack)
  | none =>
    if isClosing t then
      match stack with
      | awaited :: outer => if t = awaited then some outer else none
      | [] => none
    else if stack = [] ∧ allowed t = false then none
    else some stack

/-- The closing brackets that are awaited after a run of tokens. -/
def stackAfter? (allowed : Token → Bool) (stack : List Token) (ts : List Token) :
    Option (List Token) :=
  ts.foldlM (stackStep allowed) stack

/-- Every bracket is closed by one of its own kind, and outside of all brackets stand only allowed
tokens. -/
def NestedWith (allowed : Token → Bool) (ts : List Token) : Prop :=
  stackAfter? allowed [] ts = some []

instance (allowed : Token → Bool) (ts : List Token) : Decidable (NestedWith allowed ts) :=
  inferInstanceAs (Decidable (stackAfter? allowed [] ts = some []))

/-- Every bracket is closed by one of its own kind. -/
abbrev Nested (ts : List Token) : Prop := NestedWith (fun _ => true) ts

/-- A token opens a bracket, closes the innermost one, or leaves the brackets as they are. -/
theorem stackStep_eq_some_iff {allowed : Token → Bool} {stack next : List Token} {t : Token} :
    stackStep allowed stack t = some next ↔
      (∃ awaited, closer? t = some awaited ∧ next = awaited :: stack) ∨
      (isClosing t = true ∧ stack = t :: next) ∨
      (closer? t = none ∧ isClosing t = false ∧ next = stack ∧
        (stack = [] → allowed t = true)) := by
  unfold stackStep
  cases hCloser : closer? t with
  | some awaited =>
    have hClosing : isClosing t = false := by cases t <;> first | rfl | cases hCloser
    simp [hClosing, eq_comm (b := next)]
  | none =>
    cases hClosing : isClosing t with
    | true => cases stack <;> simp [eq_comm (b := next), eq_comm (a := t)]
    | false => cases hAllowed : allowed t <;> simp [and_comm, eq_comm (b := next)]

theorem stackAfter?_nil (allowed : Token → Bool) (stack : List Token) :
    stackAfter? allowed stack [] = some stack := rfl

theorem stackAfter?_cons (allowed : Token → Bool) (stack : List Token) (t : Token)
    (ts : List Token) :
    stackAfter? allowed stack (t :: ts)
      = (stackStep allowed stack t).bind fun next => stackAfter? allowed next ts := rfl

theorem stackAfter?_append (allowed : Token → Bool) (stack : List Token) (ts us : List Token) :
    stackAfter? allowed stack (ts ++ us)
      = (stackAfter? allowed stack ts).bind fun next => stackAfter? allowed next us :=
  List.foldlM_append

/-- Deeper inside of brackets, the same run leaves the same brackets open. -/
theorem stackAfter?_deeper {allowed : Token → Bool} {stack next ts : List Token}
    (allowed' : Token → Bool) (outer : List Token)
    (hOuter : outer = [] → ∀ t ∈ ts, isClosing t = false → allowed t = true → allowed' t = true)
    (h : stackAfter? allowed stack ts = some next) :
    stackAfter? allowed' (stack ++ outer) ts = some (next ++ outer) := by
  induction ts generalizing stack with
  | nil =>
    cases h
    rfl
  | cons t ts ih =>
    rw [stackAfter?_cons] at h ⊢
    obtain ⟨middle, hStep, hRest⟩ := Option.bind_eq_some_iff.mp h
    have hDeeper : stackStep allowed' (stack ++ outer) t = some (middle ++ outer) := by
      rw [stackStep_eq_some_iff] at hStep ⊢
      rcases hStep with
        ⟨awaited, hCloser, rfl⟩ | ⟨hClosing, rfl⟩ | ⟨hCloser, hClosing, rfl, hAllowed⟩
      · exact Or.inl ⟨awaited, hCloser, rfl⟩
      · exact Or.inr (Or.inl ⟨hClosing, rfl⟩)
      · refine Or.inr (Or.inr ⟨hCloser, hClosing, rfl, fun hNil => ?_⟩)
        obtain ⟨hStack, hNil⟩ := List.append_eq_nil_iff.mp hNil
        exact hOuter hNil t List.mem_cons_self hClosing (hAllowed hStack)
    rw [hDeeper]
    exact ih (fun hNil u hu => hOuter hNil u (List.mem_cons_of_mem _ hu)) hRest

theorem NestedWith.mono {allowed allowed' : Token → Bool} {ts : List Token}
    (h : NestedWith allowed ts)
    (hAllowed : ∀ t ∈ ts, isClosing t = false → allowed t = true → allowed' t = true) :
    NestedWith allowed' ts :=
  stackAfter?_deeper allowed' [] (fun _ => hAllowed) h

theorem NestedWith.nested {allowed : Token → Bool} {ts : List Token}
    (h : NestedWith allowed ts) : Nested ts := h.mono fun _ _ _ _ => rfl

theorem NestedWith.nil (allowed : Token → Bool) : NestedWith allowed [] := rfl

theorem NestedWith.append {allowed : Token → Bool} {ts us : List Token}
    (hts : NestedWith allowed ts) (hus : NestedWith allowed us) :
    NestedWith allowed (ts ++ us) := by
  rw [NestedWith, stackAfter?_append, hts]
  exact hus

/-- What follows a nested run inside of a nested run is nested. -/
theorem NestedWith.right {allowed allowed' : Token → Bool} {ts us : List Token}
    (h : NestedWith allowed (ts ++ us)) (hts : NestedWith allowed' ts) :
    NestedWith allowed us := by
  rw [NestedWith, stackAfter?_append] at h
  obtain ⟨stack, hStack, hus⟩ := Option.bind_eq_some_iff.mp h
  have hSame := stackAfter?_deeper (fun _ => true) [] (fun _ _ _ _ _ => rfl) hStack
  have hNested : stackAfter? (fun _ => true) [] ts = some [] := hts.nested
  rw [List.append_nil, hNested, List.append_nil, Option.some.injEq] at hSame
  rw [← hSame] at hus
  exact hus

theorem NestedWith.cons {allowed : Token → Bool} {t : Token} {ts : List Token}
    (hCloser : closer? t = none) (hClosing : isClosing t = false) (hAllowed : allowed t = true)
    (hts : NestedWith allowed ts) : NestedWith allowed (t :: ts) := by
  have hStep : stackStep allowed [] t = some [] :=
    stackStep_eq_some_iff.mpr (Or.inr (Or.inr ⟨hCloser, hClosing, rfl, fun _ => hAllowed⟩))
  rw [NestedWith, stackAfter?_cons, hStep]
  exact hts

/-- A nested run starts with an opening bracket or with a token that is allowed. -/
theorem NestedWith.of_cons {allowed : Token → Bool} {t : Token} {ts : List Token}
    (h : NestedWith allowed (t :: ts)) :
    isClosing t = false ∧ (closer? t = none → allowed t = true ∧ NestedWith allowed ts) := by
  rw [NestedWith, stackAfter?_cons] at h
  obtain ⟨next, hStep, hRest⟩ := Option.bind_eq_some_iff.mp h
  rcases stackStep_eq_some_iff.mp hStep with
    ⟨awaited, hCloser, rfl⟩ | ⟨-, hNil⟩ | ⟨-, hClosing, rfl, hAllowed⟩
  · refine ⟨?_, fun hNone => by rw [hNone] at hCloser; cases hCloser⟩
    cases t <;> first | rfl | cases hCloser
  · cases hNil
  · exact ⟨hClosing, fun _ => ⟨hAllowed rfl, hRest⟩⟩

/-- A run inside of an opening and its closing bracket. -/
theorem NestedWith.enclosed {allowed allowed' : Token → Bool} {t awaited : Token}
    {ts : List Token} (h : NestedWith allowed ts) (hCloser : closer? t = some awaited) :
    NestedWith allowed' (t :: ts ++ [awaited]) := by
  have hOpen : stackStep allowed' [] t = some [awaited] :=
    stackStep_eq_some_iff.mpr (Or.inl ⟨awaited, hCloser, rfl⟩)
  have hInside : stackAfter? allowed' [awaited] ts = some [awaited] :=
    stackAfter?_deeper allowed' [awaited] (by simp) h
  have hClose : stackStep allowed' [awaited] awaited = some [] := by
    refine stackStep_eq_some_iff.mpr (Or.inr (Or.inl ⟨?_, rfl⟩))
    cases t <;> cases hCloser <;> rfl
  rw [List.cons_append, NestedWith, stackAfter?_cons, hOpen, Option.bind_some, stackAfter?_append,
    hInside, Option.bind_some, stackAfter?_cons, hClose]
  rfl

/-- A run that closes an open bracket closes it at one place, and is nested before and after. -/
theorem stackAfter?_closes {allowed : Token → Bool} {awaited : Token} {ts : List Token}
    (stack : List Token) (h : stackAfter? allowed (stack ++ [awaited]) ts = some []) :
    ∃ inside after, ts = inside ++ awaited :: after
      ∧ stackAfter? (fun _ => true) stack inside = some [] ∧ NestedWith allowed after := by
  induction ts generalizing stack with
  | nil => simp [stackAfter?_nil] at h
  | cons t ts ih =>
    rw [stackAfter?_cons] at h
    obtain ⟨next, hStep, hRest⟩ := Option.bind_eq_some_iff.mp h
    -- Unless the token closes the bracket in question, that bracket stays at the bottom.
    have hNext : (stack = [] ∧ t = awaited ∧ next = []) ∨
        ∃ inner, next = inner ++ [awaited] ∧ stackStep (fun _ => true) stack t = some inner := by
      rw [stackStep_eq_some_iff] at hStep
      simp only [stackStep_eq_some_iff]
      rcases hStep with ⟨closer, hCloser, rfl⟩ | ⟨hClosing, hStack⟩ | ⟨hCloser, hClosing, rfl, -⟩
      · exact Or.inr ⟨closer :: stack, rfl, Or.inl ⟨closer, hCloser, rfl⟩⟩
      · cases stack with
        | nil =>
          cases hStack
          exact Or.inl ⟨rfl, rfl, rfl⟩
        | cons top rest =>
          cases hStack
          exact Or.inr ⟨rest, rfl, Or.inr (Or.inl ⟨hClosing, rfl⟩)⟩
      · exact Or.inr ⟨stack, rfl, Or.inr (Or.inr ⟨hCloser, hClosing, rfl, fun _ => trivial⟩)⟩
    rcases hNext with ⟨rfl, rfl, rfl⟩ | ⟨inner, rfl, hInner⟩
    · exact ⟨[], ts, rfl, rfl, hRest⟩
    · obtain ⟨inside, after, rfl, hInside, hAfter⟩ := ih _ hRest
      refine ⟨t :: inside, after, rfl, ?_, hAfter⟩
      rw [stackAfter?_cons, hInner]
      exact hInside

/-- An opening bracket in a nested run comes with what it encloses. -/
theorem NestedWith.of_opening {allowed : Token → Bool} {t awaited : Token} {ts : List Token}
    (hCloser : closer? t = some awaited) (h : NestedWith allowed (t :: ts)) :
    ∃ inside after, ts = inside ++ awaited :: after ∧ Nested inside
      ∧ NestedWith allowed after := by
  have hOpen : stackStep allowed [] t = some [awaited] :=
    stackStep_eq_some_iff.mpr (Or.inl ⟨awaited, hCloser, rfl⟩)
  rw [NestedWith, stackAfter?_cons, hOpen] at h
  exact stackAfter?_closes [] h

theorem NestedWith.infix_allowed {allowed allowed' : Token → Bool} {l r : List Token} {t : Token}
    (h : NestedWith allowed (l ++ t :: r)) (hl : NestedWith allowed' l)
    (hCloser : closer? t = none) : allowed t = true := ((h.right hl).of_cons.2 hCloser).1

/-! ## Tokens that bind loosely -/

/-- How loosely a token binds that stands outside of brackets. -/
def looseness : Token → Nat
  | .coalesce => 1
  | .question | .colon => 2
  | .comma => 3
  | .rightParen | .finish => 4
  | _ => 0

/-- Does the token bind at least so tightly? -/
def upTo (n : Nat) (t : Token) : Bool := decide (looseness t ≤ n)

theorem upTo_zero (t : Token) : upTo 0 t = !endsOperand t := by
  cases t <;> rfl

theorem upTo_mono {m n : Nat} (h : m ≤ n) (t : Token) (ht : upTo m t = true) :
    upTo n t = true := by
  simp only [upTo, decide_eq_true_eq] at ht ⊢
  omega

/-- A nested operand of `??` does not start with a token that ends one. -/
theorem NestedWith.not_endsOperand {t : Token} {ts : List Token}
    (h : NestedWith (upTo 0) (t :: ts)) : endsOperand t = false := by
  cases hCloser : closer? t with
  | none => simpa [upTo_zero] using (h.of_cons.2 hCloser).1
  | some awaited => cases t <;> first | rfl | cases hCloser

theorem NestedWith.loosen {m n : Nat} {ts : List Token} (h : NestedWith (upTo m) ts)
    (hLe : m ≤ n) : NestedWith (upTo n) ts := h.mono fun t _ _ => upTo_mono hLe t

/-! ## Runs that the search for `??` passes over -/

/-- The number of open brackets after one more token, or none where the search ends: at the end, at
a closing parenthesis that was not opened, and outside of brackets at `??` and at the tokens that
separate arguments and branches. -/
def depthStep (depth : Nat) : Token → Option Nat
  | .leftParen | .leftBracket => some (depth + 1)
  | .rightParen => if depth = 0 then none else some (depth - 1)
  | .rightBracket => some (depth - 1)
  | .coalesce | .comma | .question | .colon => if depth = 0 then none else some depth
  | .finish => none
  | _ => some depth

def depthAfter? (depth : Nat) (ts : List Token) : Option Nat := ts.foldlM depthStep depth

/-- The search for `??` passes over the run, and all its brackets are closed at the end. -/
def Skipped (ts : List Token) : Prop := depthAfter? 0 ts = some 0

theorem depthAfter?_cons (depth : Nat) (t : Token) (ts : List Token) :
    depthAfter? depth (t :: ts)
      = (depthStep depth t).bind fun next => depthAfter? next ts := rfl

theorem coalesceFrom?_cons (depth : Nat) (lexeme : Lexeme) (rest : List Lexeme) :
    coalesceFrom? depth (lexeme :: rest)
      = if lexeme.token = .coalesce ∧ depth = 0 then some (lexeme :: rest)
        else (depthStep depth lexeme.token).bind fun next => coalesceFrom? next rest := by
  rw [coalesceFrom?]
  cases lexeme.token <;> by_cases hDepth : depth = 0 <;> simp [depthStep, hDepth]

theorem coalesceFrom?_eq_some_iff {depth : Nat} {lexemes rest : List Lexeme} :
    coalesceFrom? depth lexemes = some rest ↔
      ∃ passed lexeme after, lexemes = passed ++ lexeme :: after ∧ rest = lexeme :: after ∧
        lexeme.token = .coalesce ∧ depthAfter? depth (tokens passed) = some 0 := by
  induction lexemes generalizing depth with
  | nil => simp [coalesceFrom?]
  | cons lexeme lexemes ih =>
    rw [coalesceFrom?_cons]
    split
    · rename_i hFound
      obtain ⟨hToken, rfl⟩ := hFound
      constructor
      · intro h
        cases h
        exact ⟨[], lexeme, lexemes, rfl, rfl, hToken, rfl⟩
      · rintro ⟨passed, found, after, hEq, rfl, -, hDepth⟩
        cases passed with
        | nil => simpa using hEq
        | cons first passed =>
          obtain ⟨rfl, -⟩ := List.cons.inj hEq
          simp [depthAfter?_cons, depthStep, hToken] at hDepth
    · rename_i hNot
      constructor
      · intro h
        obtain ⟨next, hStep, hRest⟩ := Option.bind_eq_some_iff.mp h
        obtain ⟨passed, found, after, rfl, rfl, hToken, hDepth⟩ := ih.mp hRest
        refine ⟨lexeme :: passed, found, after, rfl, rfl, hToken, ?_⟩
        rw [tokens_cons, depthAfter?_cons, hStep]
        exact hDepth
      · rintro ⟨passed, found, after, hEq, rfl, hToken, hDepth⟩
        cases passed with
        | nil =>
          obtain ⟨rfl, rfl⟩ := List.cons.inj hEq
          cases hDepth
          exact absurd ⟨hToken, rfl⟩ hNot
        | cons first passed =>
          obtain ⟨rfl, rfl⟩ := List.cons.inj hEq
          rw [tokens_cons, depthAfter?_cons] at hDepth
          obtain ⟨next, hStep, hRest⟩ := Option.bind_eq_some_iff.mp hDepth
          rw [hStep]
          exact ih.mpr ⟨passed, found, after, rfl, rfl, hToken, hRest⟩

/-- The search goes on behind a run that it passes over. -/
theorem coalesceFrom?_append {depth next : Nat} {passed : List Lexeme} (rest : List Lexeme)
    (h : depthAfter? depth (tokens passed) = some next) :
    coalesceFrom? depth (passed ++ rest) = coalesceFrom? next rest := by
  induction passed generalizing depth with
  | nil =>
    cases h
    rfl
  | cons lexeme passed ih =>
    rw [tokens_cons, depthAfter?_cons] at h
    obtain ⟨middle, hStep, hRest⟩ := Option.bind_eq_some_iff.mp h
    have hOpen : ¬ (lexeme.token = .coalesce ∧ depth = 0) := by
      rintro ⟨hToken, rfl⟩
      rw [hToken] at hStep
      cases hStep
    rw [List.cons_append, coalesceFrom?_cons, if_neg hOpen, hStep]
    exact ih hRest

theorem depthStep_of_closer {t awaited : Token} (h : closer? t = some awaited) (depth : Nat) :
    depthStep depth t = some (depth + 1) := by
  cases t <;> cases h <;> rfl

theorem depthStep_of_closing {t : Token} (h : isClosing t = true) (depth : Nat) :
    depthStep (depth + 1) t = some depth := by
  cases t <;> cases h <;> rfl

/-- The search ends before an argument, a branch or a pair of parentheses ends. -/
theorem depthStep_zero_of_endsOperand {t : Token} (h : endsOperand t = true) :
    depthStep 0 t = none := by
  cases t <;> first | rfl | cases h

theorem depthStep_of_other {depth : Nat} {t : Token} (hCloser : closer? t = none)
    (hClosing : isClosing t = false) (hMark : t ≠ .finish)
    (hEnds : depth = 0 → endsOperand t = false) : depthStep depth t = some depth := by
  by_cases hDeep : depth = 0
  · have hOpen := hEnds hDeep
    subst hDeep
    cases t <;> first | rfl | contradiction
  · cases t <;> first | rfl | contradiction | exact if_neg hDeep

theorem eq_of_depthStep {depth next : Nat} {t : Token} (hCloser : closer? t = none)
    (hClosing : isClosing t = false) (h : depthStep depth t = some next) : next = depth := by
  have hSome : depthStep depth t = some depth := by
    refine depthStep_of_other hCloser hClosing ?_ ?_
    · rintro rfl
      cases h
    · rintro rfl
      cases hEnds : endsOperand t with
      | false => rfl
      | true =>
        rw [depthStep_zero_of_endsOperand hEnds] at h
        cases h
  rw [hSome] at h
  exact (Option.some.inj h).symm

/-- A run is passed over if its brackets match and no token outside of brackets ends the search. -/
theorem depthAfter?_of_stackAfter? {allowed : Token → Bool} {stack next ts : List Token}
    {depth : Nat} (h : stackAfter? allowed stack ts = some next) (hFinish : .finish ∉ ts)
    (hAllowed : depth = 0 → ∀ t ∈ ts, allowed t = true → endsOperand t = false) :
    depthAfter? (stack.length + depth) ts = some (next.length + depth) := by
  induction ts generalizing stack with
  | nil =>
    cases h
    rfl
  | cons t ts ih =>
    rw [stackAfter?_cons] at h
    obtain ⟨middle, hStep, hRest⟩ := Option.bind_eq_some_iff.mp h
    have hDepth : depthStep (stack.length + depth) t = some (middle.length + depth) := by
      have hMark : t ≠ .finish := fun he => hFinish (he ▸ List.mem_cons_self)
      have hEnds := fun hZero => hAllowed hZero t List.mem_cons_self
      rcases stackStep_eq_some_iff.mp hStep with
        ⟨awaited, hCloser, rfl⟩ | ⟨hClosing, rfl⟩ | ⟨hCloser, hClosing, rfl, hOutside⟩
      · rw [depthStep_of_closer hCloser, List.length_cons, Nat.add_right_comm]
      · rw [List.length_cons, Nat.add_right_comm, depthStep_of_closing hClosing]
      · refine depthStep_of_other hCloser hClosing hMark fun hZero => ?_
        exact hEnds (by omega) (hOutside (List.eq_nil_of_length_eq_zero (by omega)))
    rw [depthAfter?_cons, hDepth]
    exact ih hRest (fun hMem => hFinish (List.mem_cons_of_mem _ hMem))
      (fun hZero u hu => hAllowed hZero u (List.mem_cons_of_mem _ hu))

/-- Inside of a nested run that is followed by the end of an operand, the search passes over nested
runs only, and stays inside. -/
theorem nested_of_depthAfter? {ts us inside tail : List Token} {stop : Token} (stack : List Token)
    (hDepth : depthAfter? stack.length ts = some 0)
    (hNested : stackAfter? (fun _ => true) stack inside = some [])
    (hEq : ts ++ .coalesce :: us = inside ++ stop :: tail) (hStop : endsOperand stop = true)
    (hCoalesce : stop ≠ .coalesce) :
    ∃ after, inside = ts ++ .coalesce :: after ∧ us = after ++ stop :: tail ∧
      stackAfter? (upTo 0) stack ts = some [] := by
  induction ts generalizing stack inside with
  | nil =>
    obtain rfl : stack = [] := List.eq_nil_of_length_eq_zero (Option.some.inj hDepth)
    cases inside with
    | nil => exact absurd (List.cons.inj hEq).1.symm hCoalesce
    | cons t inside =>
      obtain ⟨rfl, rfl⟩ := List.cons.inj hEq
      exact ⟨inside, rfl, rfl, rfl⟩
  | cons t ts ih =>
    rw [depthAfter?_cons] at hDepth
    obtain ⟨depth, hStep, hRest⟩ := Option.bind_eq_some_iff.mp hDepth
    cases inside with
    | nil =>
      cases hNested
      obtain ⟨rfl, -⟩ := List.cons.inj hEq
      rw [List.length_nil, depthStep_zero_of_endsOperand hStop] at hStep
      cases hStep
    | cons t' inside =>
      obtain ⟨rfl, hTail⟩ := List.cons.inj hEq
      rw [stackAfter?_cons] at hNested
      obtain ⟨next, hNext, hInside⟩ := Option.bind_eq_some_iff.mp hNested
      have hSame : depth = next.length
          ∧ stackStep (upTo 0) stack t = some next := by
        simp only [stackStep_eq_some_iff] at hNext ⊢
        rcases hNext with ⟨awaited, hCloser, rfl⟩ | ⟨hClosing, rfl⟩ | ⟨hCloser, hClosing, rfl, -⟩
        · refine ⟨?_, Or.inl ⟨awaited, hCloser, rfl⟩⟩
          rw [depthStep_of_closer hCloser] at hStep
          exact (Option.some.inj hStep).symm
        · refine ⟨?_, Or.inr (Or.inl ⟨hClosing, rfl⟩)⟩
          rw [List.length_cons, depthStep_of_closing hClosing] at hStep
          exact (Option.some.inj hStep).symm
        · refine ⟨eq_of_depthStep hCloser hClosing hStep, ?_⟩
          refine Or.inr (Or.inr ⟨hCloser, hClosing, rfl, fun hNil => ?_⟩)
          subst hNil
          rw [upTo_zero]
          cases hEnds : endsOperand t with
          | false => rfl
          | true =>
            rw [List.length_nil, depthStep_zero_of_endsOperand hEnds] at hStep
            cases hStep
      obtain ⟨rfl, hNext⟩ := hSame
      obtain ⟨after, rfl, rfl, hAfter⟩ := ih _ hRest hInside hTail
      refine ⟨after, rfl, rfl, ?_⟩
      rw [stackAfter?_cons, hNext]
      exact hAfter

end TextTemplate.Parser
