import TextTemplate.Proofs.Parser.Recognition

/-!
# Recovery is substitution by null

A run that cannot be read as an operand of `??`, with matching brackets and without tokens of a
looser rule outside of them, is read as null, wherever an operand of `??` may start. Two sources
that differ at one such place are read side by side: outside of the place both readers see the same
tokens, and at the place both arrive at null.

* `readsAlike`: the statement for all readers, by induction on the bound on steps of the first.
* `recovery_in_scope`: whole expressions, and the arguments that no recovery reaches.
-/

namespace TextTemplate.Parser

open Grammar

/-- A run that is not an operand of `??` but stands in the place of one. -/
structure Garbled (g : List Token) : Prop where
  nested : NestedWith (fun t => t ≠ .comma ∧ t ≠ .question ∧ t ≠ .colon) g
  coalesce : .coalesce ∉ g
  finish : .finish ∉ g
  unread (p : Part) : ¬ Derives NoRecovery g (.comparison p)

theorem Garbled.nestedOperand {g : List Token} (h : Garbled g) : NestedOperand g := by
  refine h.nested.mono fun t ht hClosing hAllowed => ?_
  have hCoalesce : t ≠ .coalesce := fun he => h.coalesce (he ▸ ht)
  have hFinish : t ≠ .finish := fun he => h.finish (he ▸ ht)
  cases t <;> first | rfl | simp_all [isClosing]

theorem Garbled.skipped {g : List Token} (h : Garbled g) (depth : Nat) :
    depthAfter? depth g = some depth := by
  have hDepth : depthAfter? ([].length + depth) g = some ([].length + depth) :=
    depthAfter?_of_stackAfter? h.nestedOperand h.finish
      fun _ t _ ht => by simpa [upTo_zero] using ht
  simpa using hDepth

/-- The token stands before a place where an operand of `??` starts. -/
def opens : Token → Bool
  | .leftParen | .comma | .question | .colon | .coalesce => true
  | _ => false

def Opened (ts : List Token) : Prop := ∃ t, ts.getLast? = some t ∧ opens t = true

theorem Opened.cons {t : Token} {ts : List Token} (h : Opened (t :: ts)) :
    (ts = [] ∧ opens t = true) ∨ Opened ts := by
  obtain ⟨last, hLast, hOpens⟩ := h
  cases ts with
  | nil =>
    cases hLast
    exact Or.inl ⟨rfl, hOpens⟩
  | cons t' ts => exact Or.inr ⟨last, by simpa using hLast, hOpens⟩

theorem Opened.ne_nil {ts : List Token} (h : Opened ts) : ts ≠ [] := by
  rintro rfl
  obtain ⟨t, hNone, -⟩ := h
  cases hNone

/-! ## Sources that differ at one place -/

theorem current_of_tokens {lexemes : List Lexeme} {t : Token} {ts : List Token}
    (h : tokens lexemes = t :: ts) : current lexemes = t := by
  obtain ⟨lexeme, rest, rfl, rfl, -⟩ := tokens_eq_cons_iff.mp h
  rfl

theorem current_congr {ls ms : List Lexeme} (h : tokens ls = tokens ms) :
    current ls = current ms := by
  cases ls with
  | nil =>
    obtain rfl := List.map_eq_nil_iff.mp h.symm
    rfl
  | cons lexeme ls => exact (current_of_tokens h.symm).symm

theorem tokens_tail (lexemes : List Lexeme) : tokens lexemes.tail = (tokens lexemes).tail :=
  List.map_tail

/-- Two sources with the same tokens, or with the garbled run in the one where the other has null,
some tokens ahead. -/
inductive Twins (g s : List Token) (ls ms : List Lexeme) : Prop
  | same (h : tokens ls = tokens ms)
  | apart {ts : List Token} (hOpened : Opened ts) (hg : tokens ls = ts ++ (g ++ .coalesce :: s))
      (hNull : tokens ms = ts ++ .null :: .coalesce :: s)

/-- The place itself is next, or it is some tokens ahead. -/
inductive Near (g s : List Token) (ls ms : List Lexeme) : Prop
  | twins (h : Twins g s ls ms)
  | here (hg : tokens ls = g ++ .coalesce :: s) (hNull : tokens ms = .null :: .coalesce :: s)

section Twins

variable {g s : List Token} {ls ms : List Lexeme}

theorem Twins.current (h : Twins g s ls ms) : current ls = Parser.current ms := by
  cases h with
  | same h => exact current_congr h
  | @apart ts hOpened hg hNull =>
    obtain ⟨t, ts, rfl⟩ := List.exists_cons_of_ne_nil hOpened.ne_nil
    exact (current_of_tokens hg).trans (current_of_tokens hNull).symm

/-- One token further the place itself may be next. -/
theorem Twins.next (h : Twins g s ls ms) : Near g s ls.tail ms.tail := by
  cases h with
  | same h => exact .twins (.same (by rw [tokens_tail, tokens_tail, h]))
  | @apart ts hOpened hg hNull =>
    obtain ⟨t, ts, rfl⟩ := List.exists_cons_of_ne_nil hOpened.ne_nil
    have hgTail : tokens ls.tail = ts ++ (g ++ .coalesce :: s) := by rw [tokens_tail, hg]; rfl
    have hNullTail : tokens ms.tail = ts ++ .null :: .coalesce :: s := by
      rw [tokens_tail, hNull]; rfl
    rcases hOpened.cons with ⟨rfl, -⟩ | hOpened
    · exact .here hgTail hNullTail
    · exact .twins (.apart hOpened hgTail hNullTail)

/-- Behind a token that opens no operand of `??`, the place is not next. -/
theorem Twins.tail (h : Twins g s ls ms) (hOpens : opens (Parser.current ls) = false) :
    Twins g s ls.tail ms.tail := by
  cases h with
  | same h => exact .same (by rw [tokens_tail, tokens_tail, h])
  | @apart ts hOpened hg hNull =>
    obtain ⟨t, ts, rfl⟩ := List.exists_cons_of_ne_nil hOpened.ne_nil
    rw [current_of_tokens hg] at hOpens
    rcases hOpened.cons with ⟨-, hOpens'⟩ | hOpened
    · rw [hOpens] at hOpens'
      cases hOpens'
    · exact .apart hOpened (by rw [tokens_tail, hg]; rfl) (by rw [tokens_tail, hNull]; rfl)

/-- A closing parenthesis is next in both sources or in none of them. -/
theorem Near.of_rightParen (hg : Garbled g) (h : Near g s ls ms) :
    (current ls = .rightParen ∧ current ms = .rightParen ∧ Twins g s ls ms) ∨
      (current ls ≠ .rightParen ∧ current ms ≠ .rightParen) := by
  cases h with
  | twins h =>
    by_cases hParen : Parser.current ls = .rightParen
    · exact Or.inl ⟨hParen, h.current ▸ hParen, h⟩
    · exact Or.inr ⟨hParen, h.current ▸ hParen⟩
  | here hLeft hRight =>
    refine Or.inr ⟨?_, ?_⟩
    · cases g with
      | nil => rw [current_of_tokens hLeft]; simp
      | cons t g =>
        rw [current_of_tokens hLeft]
        rintro rfl
        cases hg.nested.of_cons.1
    · rw [current_of_tokens hRight]
      simp

/-- One step of the search for `??` in both sources. -/
theorem coalesceFrom?_cons_rel {R : List Lexeme → List Lexeme → Prop} {l m : Lexeme}
    (hToken : l.token = m.token) (depth : Nat)
    (hFound : l.token = .coalesce → R (l :: ls) (m :: ms))
    (hRest : ∀ next, Option.Rel R (coalesceFrom? next ls) (coalesceFrom? next ms)) :
    Option.Rel R (coalesceFrom? depth (l :: ls)) (coalesceFrom? depth (m :: ms)) := by
  rw [coalesceFrom?_cons, coalesceFrom?_cons, ← hToken]
  by_cases hHere : l.token = .coalesce ∧ depth = 0
  · rw [if_pos hHere, if_pos hHere]
    exact .some (hFound hHere.1)
  · rw [if_neg hHere, if_neg hHere]
    cases depthStep depth l.token with
    | none => exact .none
    | some next => exact hRest next

theorem coalesceFrom?_same (h : tokens ls = tokens ms) (depth : Nat) :
    Option.Rel (Twins g s) (coalesceFrom? depth ls) (coalesceFrom? depth ms) := by
  induction ls generalizing ms depth with
  | nil =>
    obtain rfl := List.map_eq_nil_iff.mp h.symm
    exact .none
  | cons l ls ih =>
    obtain ⟨m, ms, rfl, hToken, hRest⟩ := tokens_eq_cons_iff.mp h.symm
    exact coalesceFrom?_cons_rel hToken.symm depth (fun _ => .same h) fun next => ih hRest.symm next

/-- The search for `??` ends at the same place in both sources. -/
theorem Twins.coalesceFrom? (hg : Garbled g) (h : Twins g s ls ms) (depth : Nat) :
    Option.Rel (Twins g s) (coalesceFrom? depth ls) (Parser.coalesceFrom? depth ms) := by
  cases h with
  | same h => exact coalesceFrom?_same h depth
  | @apart ts hOpened hLeft hRight =>
    induction ts generalizing ls ms depth with
    | nil => exact absurd rfl hOpened.ne_nil
    | cons t ts ih =>
      obtain ⟨l, ls, rfl, hl, hLeftRest⟩ := tokens_eq_cons_iff.mp hLeft
      obtain ⟨m, ms, rfl, hm, hRightRest⟩ := tokens_eq_cons_iff.mp hRight
      refine coalesceFrom?_cons_rel (hl.trans hm.symm) depth
        (fun _ => .apart hOpened hLeft hRight) fun next => ?_
      rcases hOpened.cons with ⟨rfl, -⟩ | hOpened
      · -- The garbled run and null are both passed over.
        change tokens ls = g ++ .coalesce :: s at hLeftRest
        change tokens ms = .null :: .coalesce :: s at hRightRest
        obtain ⟨passed, rest, rfl, hPassed, hRest⟩ := tokens_eq_append_iff.mp hLeftRest
        obtain ⟨null, rest', rfl, hNull, hRest'⟩ := tokens_eq_cons_iff.mp hRightRest
        rw [coalesceFrom?_append rest (hPassed ▸ hg.skipped next), coalesceFrom?_cons, hNull,
          if_neg (by simp)]
        exact coalesceFrom?_same (hRest.trans hRest'.symm) next
      · exact ih next hOpened hLeftRest hRightRest

end Twins

/-! ## Reading side by side -/

/-- Both readers arrive at the same result with related rests, or both fail, unless one of them
runs out of steps. -/
inductive Alike {α : Type} (R : List Lexeme → List Lexeme → Prop) : Parsed α → Parsed α → Prop
  | done (a : α) {ls ms : List Lexeme} (h : R ls ms) : Alike R (.done a ls) (.done a ms)
  | faults (f f' : LocatedFault) : Alike R (.fault f) (.fault f')
  | exhaustedLeft (r : Parsed α) : Alike R .exhausted r
  | exhaustedRight (r : Parsed α) : Alike R r .exhausted

theorem Alike.andThen {α β : Type} {R R' : List Lexeme → List Lexeme → Prop} {r r' : Parsed α}
    {next next' : α → List Lexeme → Parsed β} (h : Alike R r r')
    (hNext : ∀ a ls ms, R ls ms → Alike R' (next a ls) (next' a ms)) :
    Alike R' (r.andThen next) (r'.andThen next') := by
  cases h with
  | done a h => exact hNext a _ _ h
  | faults f f' => exact .faults f f'
  | exhaustedLeft r => exact .exhaustedLeft _
  | exhaustedRight r => exact .exhaustedRight _

theorem Alike.of_arrives {α : Type} {R : List Lexeme → List Lexeme → Prop} {r r' : Parsed α}
    {a : α} {ls ms : List Lexeme} (h : Arrives r a ls) (h' : Arrives r' a ms) (hR : R ls ms) :
    Alike R r r' := by
  cases r with
  | exhausted => exact .exhaustedLeft _
  | fault f => cases h (by simp)
  | done b rest =>
    cases h (by simp)
    cases r' with
    | exhausted => exact .exhaustedRight _
    | fault f => cases h' (by simp)
    | done b' rest' =>
      cases h' (by simp)
      exact .done _ hR

section Readers

variable {g s : List Token} {ls ms : List Lexeme}

theorem Twins.expect (h : Twins g s ls ms) (t : Token) (what : String) :
    Alike (Near g s) (expect t what ls) (Parser.expect t what ms) := by
  unfold Parser.expect
  rw [← h.current]
  by_cases ht : Parser.current ls = t
  · rw [if_pos ht, if_pos ht]
    exact .done () h.next
  · rw [if_neg ht, if_neg ht]
    exact .faults _ _

theorem Twins.expect_rightParen (h : Twins g s ls ms) (what : String) :
    Alike (Twins g s) (Parser.expect .rightParen what ls) (Parser.expect .rightParen what ms) := by
  unfold Parser.expect
  rw [← h.current]
  by_cases ht : Parser.current ls = .rightParen
  · rw [if_pos ht, if_pos ht]
    exact .done () (h.tail (by rw [ht]; rfl))
  · rw [if_neg ht, if_neg ht]
    exact .faults _ _

theorem Twins.callOf (h : Twins g s ls ms) (name : String) (opening opening' : Nat)
    (args : List Part) :
    Alike (Twins g s) (callOf name opening args ls) (Parser.callOf name opening' args ms) := by
  unfold Parser.callOf
  split
  · split
    · exact .done _ h
    · exact .faults _ _
  · exact .done _ h

theorem opens_of_field {t : Token} {name : String} (h : Field t name) : opens t = false := by
  cases h <;> rfl

/-- The step of `segments`, by the tokens that it looks at. -/
theorem segments_eq (lexemes : List Lexeme) :
    segments lexemes =
      match current lexemes with
      | .dot =>
        match fieldName? (current lexemes.tail) with
        | some name =>
          (segments lexemes.tail.tail).andThen fun path rest => .done (.key name :: path) rest
        | none => faultAt .noFieldName lexemes.tail
      | .leftBracket =>
        match current lexemes.tail with
        | .number x =>
          match indexOf? x with
          | some i =>
            if current lexemes.tail.tail = .rightBracket then
              (segments lexemes.tail.tail.tail).andThen fun path rest =>
                .done (.index i :: path) rest
            else faultAt (.missing "']'" (current lexemes.tail.tail)) lexemes.tail.tail
          | none => faultAt .noIndex lexemes.tail
        | _ => faultAt .noIndex lexemes.tail
      | _ => .done [] lexemes := by
  rcases lexemes with _ | ⟨first, _ | ⟨second, _ | ⟨third, rest⟩⟩⟩
  all_goals
    rw [segments.eq_def]
    rfl

theorem Twins.segments (h : Twins g s ls ms) :
    Alike (Twins g s) (segments ls) (Parser.segments ms) := by
  -- One step takes up to three lexemes, so the induction is on how many there are.
  induction hLength : ls.length using Nat.strongRecOn generalizing ls ms with
  | ind n ih =>
    rw [segments_eq ls, segments_eq ms, ← h.current]
    cases hFirst : Parser.current ls with
    | dot =>
      have hTail := h.tail (by rw [hFirst]; rfl)
      dsimp only
      rw [← hTail.current]
      cases hName : fieldName? (Parser.current ls.tail) with
      | none => exact .faults _ _
      | some name =>
        have hOpens := opens_of_field (fieldName?_eq_some_iff.mp hName)
        have hShorter : ls.tail.tail.length < n := by
          have := length_tail_lt hFirst (by simp)
          rw [List.length_tail]
          omega
        exact (ih _ hShorter (hTail.tail hOpens) rfl).andThen fun _ _ _ hRest => .done _ hRest
    | leftBracket =>
      have hTail := h.tail (by rw [hFirst]; rfl)
      dsimp only
      rw [← hTail.current]
      cases hSecond : Parser.current ls.tail with
      | number x =>
        dsimp only
        cases indexOf? x with
        | none => exact .faults _ _
        | some i =>
          have hTail := hTail.tail (by rw [hSecond]; rfl)
          dsimp only
          rw [← hTail.current]
          by_cases hClosing : Parser.current ls.tail.tail = .rightBracket
          · rw [if_pos hClosing, if_pos hClosing]
            have hShorter : ls.tail.tail.tail.length < n := by
              have := length_tail_lt hFirst (by simp)
              rw [List.length_tail, List.length_tail]
              omega
            exact (ih _ hShorter (hTail.tail (by rw [hClosing]; rfl)) rfl).andThen
              fun _ _ _ hRest => .done _ hRest
          · rw [if_neg hClosing, if_neg hClosing]
            exact .faults _ _
      | _ => exact .faults _ _
    | _ => exact .done _ h

/-- The garbled run is read as null, up to the `??` behind it. -/
theorem Garbled.arrives (hg : Garbled g) (fuel : Nat) {rest : List Lexeme} (hTokens : tokens ls = g)
    (hRest : current rest = .coalesce) :
    Arrives (coalesceOperand fuel (ls ++ rest)) (.literal .null) rest := by
  cases fuel with
  | zero => exact Arrives.exhausted _ _
  | succ fuel =>
    obtain ⟨coalesce, hCoalesce, hCons⟩ := eq_cons_of_current hRest (by simp)
    have hFrom : Parser.coalesceFrom? 0 (ls ++ rest) = some rest :=
      coalesceFrom?_eq_some_iff.mpr
        ⟨ls, coalesce, rest.tail, by rw [← hCons], hCons, hCoalesce, hTokens ▸ hg.skipped 0⟩
    rw [coalesceOperand, hFrom]
    split
    · rename_i p after hDone
      -- A comparison at the start of the run is not all of it.
      have hMiddle : endsOperand (Parser.current after) = false := by
        obtain ⟨used, hUsed, hDerives⟩ := (readsWith fuel).comparison hDone
        have hEq : tokens used ++ tokens after = g ++ .coalesce :: tokens rest.tail := by
          rw [← tokens_append, ← hUsed, tokens_append, hTokens, hCons, tokens_cons, hCoalesce,
            List.tail_cons]
        have hNested := hg.nestedOperand.nested
        have hInside := hDerives.inside hEq hNested rfl
        obtain ⟨more, rfl, hAfter, -⟩ := hInside.split_inside hEq hNested rfl
        cases more with
        | nil =>
          rw [List.append_nil] at hg
          exact absurd (hDerives.strict hg.coalesce) (hg.unread p)
        | cons t more =>
          rw [current_of_tokens hAfter]
          have hMore : NestedWith (upTo 0) (t :: more) :=
            hg.nestedOperand.right (hInside.nestedWith fun _ h => h)
          exact hMore.not_endsOperand
      rw [if_neg (by rw [hMiddle]; simp)]
      exact Arrives.done _ _
    · exact Arrives.done _ _
    · exact Arrives.exhausted _ _

end Readers

/-- What the readers make of two sources that differ at one place, when the first has so many
steps. Readers that do not start an operand of `??` never start at the place itself. -/
structure ReadsAlike (g s : List Token) (fuel : Nat) : Prop where
  operand {fuel' : Nat} {ls ms : List Lexeme} :
    Twins g s ls ms → Alike (Twins g s) (operand fuel ls) (operand fuel' ms)
  comparison {fuel' : Nat} {ls ms : List Lexeme} :
    Twins g s ls ms → Alike (Twins g s) (comparison fuel ls) (comparison fuel' ms)
  coalesceOperand {fuel' : Nat} {ls ms : List Lexeme} :
    Near g s ls ms → Alike (Twins g s) (coalesceOperand fuel ls) (coalesceOperand fuel' ms)
  coalesce {fuel' : Nat} {ls ms : List Lexeme} :
    Near g s ls ms → Alike (Twins g s) (coalesce fuel ls) (coalesce fuel' ms)
  ternary {fuel' : Nat} {ls ms : List Lexeme} :
    Near g s ls ms → Alike (Twins g s) (ternary fuel ls) (ternary fuel' ms)
  arguments {name : String} {fuel' : Nat} {ls ms : List Lexeme} :
    Near g s ls ms → Alike (Twins g s) (arguments name fuel ls) (arguments name fuel' ms)

section Step

variable {g s : List Token} {fuel fuel' : Nat} {ls ms : List Lexeme}

theorem ReadsAlike.operand_step (hg : Garbled g) (ih : ReadsAlike g s fuel)
    (h : Twins g s ls ms) :
    Alike (Twins g s) (Parser.operand (fuel + 1) ls) (Parser.operand fuel' ms) := by
  cases fuel' with
  | zero => exact .exhaustedRight _
  | succ fuel' =>
    rw [Parser.operand, Parser.operand, ← h.current]
    cases hFirst : current ls with
    | leftParen =>
      refine (ih.ternary h.next).andThen fun p ls ms hRest => ?_
      exact (hRest.expect_rightParen _).andThen fun _ _ _ hRest => .done _ hRest
    | number | text | boolean | null => exact .done _ (h.tail (by rw [hFirst]; rfl))
    | minus =>
      have hTail := h.tail (by rw [hFirst]; rfl)
      dsimp only
      rw [← hTail.current]
      cases hSecond : current ls.tail with
      | number x => exact .done _ (hTail.tail (by rw [hSecond]; rfl))
      | _ => exact .faults _ _
    | name name =>
      have hTail := h.tail (by rw [hFirst]; rfl)
      dsimp only
      rw [← hTail.current]
      by_cases hCall : current ls.tail = .leftParen
      · rw [if_pos hCall, if_pos hCall]
        rcases hTail.next.of_rightParen hg with ⟨hLeft, hRight, hInside⟩ | ⟨hLeft, hRight⟩
        · rw [if_pos hLeft, if_pos hRight]
          exact (hInside.tail (by rw [hLeft]; rfl)).callOf _ _ _ _
        · rw [if_neg hLeft, if_neg hRight]
          exact (ih.arguments hTail.next).andThen fun _ _ _ hRest => hRest.callOf _ _ _ _
      · rw [if_neg hCall, if_neg hCall]
        exact hTail.segments.andThen fun _ _ _ hRest => .done _ hRest
    | _ => exact .faults _ _

theorem ReadsAlike.comparison_step (ih : ReadsAlike g s fuel) (h : Twins g s ls ms) :
    Alike (Twins g s) (Parser.comparison (fuel + 1) ls) (Parser.comparison fuel' ms) := by
  cases fuel' with
  | zero => exact .exhaustedRight _
  | succ fuel' =>
    rw [Parser.comparison, Parser.comparison]
    refine (ih.operand h).andThen fun left ls ms hRest => ?_
    rw [← hRest.current]
    cases hOp : comparison? (current ls) with
    | none => exact .done _ hRest
    | some op =>
      have hOpens : opens (current ls) = false := by
        rw [comparison?_eq_some_iff.mp hOp]
        cases op <;> rfl
      exact (ih.operand (hRest.tail hOpens)).andThen fun _ _ _ hRest => .done _ hRest

theorem ReadsAlike.coalesceOperand_step (hg : Garbled g) (ih : ReadsAlike g s fuel)
    (h : Near g s ls ms) :
    Alike (Twins g s) (Parser.coalesceOperand (fuel + 1) ls)
      (Parser.coalesceOperand fuel' ms) := by
  cases h with
  | here hLeft hRight =>
    obtain ⟨passed, rest, rfl, hPassed, hRest⟩ := tokens_eq_append_iff.mp hLeft
    obtain ⟨null, rest', rfl, hNull, hRest'⟩ := tokens_eq_cons_iff.mp hRight
    have hReadable : Readable [.null] (.comparison (.literal .null)) :=
      readable_of_derives (.uncompared .null)
    refine Alike.of_arrives (hg.arrives _ hPassed (current_of_tokens hRest)) ?_
      (.same (hRest.trans hRest'.symm))
    have hTokens : tokens [null] = [.null] := by simp [hNull]
    refine hReadable.coalesceOperand hTokens ?_ fuel'
    rw [current_of_tokens hRest']
    rfl
  | twins h =>
    cases fuel' with
    | zero => exact .exhaustedRight _
    | succ fuel' =>
      have hFrom := h.coalesceFrom? hg 0
      have hComparison : Alike (Twins g s) _ (Parser.comparison fuel' ms) := ih.comparison h
      rw [Parser.coalesceOperand, Parser.coalesceOperand]
      generalize Parser.comparison fuel ls = r at hComparison
      generalize Parser.comparison fuel' ms = r' at hComparison
      generalize coalesceFrom? 0 ls = found at hFrom
      generalize coalesceFrom? 0 ms = found' at hFrom
      cases hComparison with
      | @done a ls ms hRest =>
        dsimp only
        rw [← hRest.current]
        split
        · exact .done _ hRest
        · cases hFrom with
          | some hFound => exact .done _ hFound
          | none => exact .done _ hRest
      | faults f f' =>
        cases hFrom with
        | some hFound => exact .done _ hFound
        | none => exact .faults _ _
      | exhaustedLeft => exact .exhaustedLeft _
      | exhaustedRight => exact .exhaustedRight _

theorem ReadsAlike.coalesce_step (ih : ReadsAlike g s fuel) (h : Near g s ls ms) :
    Alike (Twins g s) (Parser.coalesce (fuel + 1) ls) (Parser.coalesce fuel' ms) := by
  cases fuel' with
  | zero => exact .exhaustedRight _
  | succ fuel' =>
    rw [Parser.coalesce, Parser.coalesce]
    refine (ih.coalesceOperand h).andThen fun left ls ms hRest => ?_
    rw [← hRest.current]
    by_cases hCoalesce : current ls = .coalesce
    · rw [if_pos hCoalesce, if_pos hCoalesce]
      exact (ih.coalesce hRest.next).andThen fun _ _ _ hRest => .done _ hRest
    · rw [if_neg hCoalesce, if_neg hCoalesce]
      exact .done _ hRest

theorem ReadsAlike.ternary_step (ih : ReadsAlike g s fuel) (h : Near g s ls ms) :
    Alike (Twins g s) (Parser.ternary (fuel + 1) ls) (Parser.ternary fuel' ms) := by
  cases fuel' with
  | zero => exact .exhaustedRight _
  | succ fuel' =>
    rw [Parser.ternary, Parser.ternary]
    refine (ih.coalesce h).andThen fun condition ls ms hRest => ?_
    rw [← hRest.current]
    by_cases hQuestion : current ls = .question
    · rw [if_pos hQuestion, if_pos hQuestion]
      refine (ih.ternary hRest.next).andThen fun yes ls ms hRest => ?_
      refine (hRest.expect _ _).andThen fun _ ls ms hRest => ?_
      exact (ih.ternary hRest).andThen fun _ _ _ hRest => .done _ hRest
    · rw [if_neg hQuestion, if_neg hQuestion]
      exact .done _ hRest

theorem ReadsAlike.arguments_step (ih : ReadsAlike g s fuel) {name : String}
    (h : Near g s ls ms) :
    Alike (Twins g s) (Parser.arguments name (fuel + 1) ls)
      (Parser.arguments name fuel' ms) := by
  cases fuel' with
  | zero => exact .exhaustedRight _
  | succ fuel' =>
    rw [Parser.arguments, Parser.arguments]
    refine (ih.ternary h).andThen fun arg ls ms hRest => ?_
    rw [← hRest.current]
    cases hNext : current ls with
    | comma => exact (ih.arguments hRest.next).andThen fun _ _ _ hRest => .done _ hRest
    | rightParen => exact .done _ (hRest.tail (by rw [hNext]; rfl))
    | _ => exact .faults _ _

end Step

theorem readsAlike {g : List Token} (hg : Garbled g) (s : List Token) (fuel : Nat) :
    ReadsAlike g s fuel := by
  -- The second source may be longer or shorter, so its bound on steps is left open.
  induction fuel with
  | zero => constructor <;> intros <;> exact .exhaustedLeft _
  | succ fuel ih =>
    exact ⟨ih.operand_step hg, ih.comparison_step, ih.coalesceOperand_step hg, ih.coalesce_step,
      ih.ternary_step, ih.arguments_step⟩

/-! ## Whole expressions -/

/-- A garbled operand of `??` and null give the same expression, or both fail. -/
theorem expression_garbled {before g s : List Token} {ls ms : List Lexeme} (hg : Garbled g)
    (hBefore : before = [] ∨ Opened before)
    (hLeft : tokens ls = before ++ (g ++ .coalesce :: s))
    (hRight : tokens ms = before ++ .null :: .coalesce :: s) :
    (expression ls).toOption = (expression ms).toOption := by
  have hNear : Near g s ls ms := by
    rcases hBefore with rfl | hOpened
    · exact .here hLeft hRight
    · exact .twins (.apart hOpened hLeft hRight)
  have hAlike : Alike (Twins g s) (ternary (fuelFor ls) ls) (ternary (fuelFor ms) ms) :=
    (readsAlike hg s _).ternary hNear
  have hEnough := ternary_fuelFor_ne_exhausted ls
  have hEnough' := ternary_fuelFor_ne_exhausted ms
  unfold expression
  generalize ternary (fuelFor ls) ls = r at hAlike hEnough
  generalize ternary (fuelFor ms) ms = r' at hAlike hEnough'
  cases hAlike with
  | @done p ls ms hRest =>
    dsimp only
    rw [← hRest.current]
    split <;> rfl
  | faults f f' => rfl
  | exhaustedLeft => exact absurd rfl hEnough
  | exhaustedRight => exact absurd rfl hEnough'

/-- No `??` of another argument rescues one that cannot be read. -/
theorem call_refused {name : String} {args : List (List Token)} {lexemes : List Lexeme}
    (hSome : args ≠ [[]]) (hArgs : ∀ a ∈ args, NestedWith (fun t => t ≠ .comma) a ∧ .finish ∉ a)
    (hUnread : ∃ a ∈ args, .coalesce ∉ a ∧ ∀ p, ¬ Derives NoRecovery a (.ternary p))
    (hTokens : tokens lexemes
      = .name name :: (.leftParen :: separated args ++ [.rightParen]) ++ [.finish])
    (p : Part) : expression lexemes ≠ .ok p := by
  intro h
  obtain ⟨a, ha, hCoalesce, hUnread⟩ := hUnread
  have hNested : Nested (separated args) :=
    separated_induction rfl (fun a b ha hb => ha.append (.cons rfl rfl rfl hb))
      fun a ha => (hArgs a ha).1.nested
  have hFinish : .finish ∉ separated args :=
    separated_induction (by simp) (fun a b ha hb => by simp [ha, hb]) fun a ha => (hArgs a ha).2
  have hNonempty : separated args ≠ [] := by
    rcases args with _ | ⟨b, _ | ⟨c, args⟩⟩
    · cases ha
    · rw [separated_singleton]
      exact fun hNil => hSome (by rw [hNil])
    · rw [separated_cons_cons]
      simp
  have hCall : NestedWith (fun t => t = .name name)
      (.name name :: (.leftParen :: separated args ++ [.rightParen])) :=
    .cons rfl rfl (by simp) (hNested.enclosed rfl)
  have hDerives := expression_derives hTokens (by simp [hFinish]) h
  have hInside := hDerives.inside (show _ ++ [Token.finish] = _ from rfl) hCall.nested rfl
  have hName (t : Token) (ht : isInfix t = true) : decide (t = .name name) = false := by
    cases t <;> first | rfl | cases ht
  have hOperand := hInside.operand_of_nestedWith hName hCall
  obtain ⟨ps, hAll⟩ := hOperand.arguments_of_call hNonempty
  obtain ⟨q, hq⟩ := hAll.argument_of_mem (fun a ha => (hArgs a ha).1) ha
  exact hUnread q (hq.strict hCoalesce)

/-- Recovery of an operand of `??` is substitution by null and stays in its scope. A garbled operand
and null give the same expression, or both fail, wherever an operand of `??` may start. And a call
is refused if one of its arguments can neither be read nor has a `??` of its own, whatever the
others are. `name()` is a call without arguments, not with an empty one. -/
theorem recovery_in_scope :
    (∀ (before g s : List Token) (ls ms : List Lexeme), before = [] ∨ Opened before → Garbled g →
      tokens ls = before ++ (g ++ .coalesce :: s) →
      tokens ms = before ++ .null :: .coalesce :: s →
      (expression ls).toOption = (expression ms).toOption) ∧
    (∀ (name : String) (args : List (List Token)) (lexemes : List Lexeme), args ≠ [[]] →
      (∀ a ∈ args, NestedWith (fun t => t ≠ .comma) a ∧ .finish ∉ a) →
      (∃ a ∈ args, .coalesce ∉ a ∧ ∀ p, ¬ Derives NoRecovery a (.ternary p)) →
      tokens lexemes = .name name :: (.leftParen :: separated args ++ [.rightParen]) ++ [.finish] →
      ∀ p, expression lexemes ≠ .ok p) :=
  ⟨fun _ _ _ _ _ hBefore hg hLeft hRight => expression_garbled hg hBefore hLeft hRight,
    fun _ _ _ hSome hArgs hUnread hTokens => call_refused hSome hArgs hUnread hTokens⟩

/-- `f(== true ?? 'x')` is `f(null ?? 'x')`, and `f('x' ?? 'y', == true)` is refused. -/
theorem recovery_in_call :
    let lexemes (ts : List Token) : List Lexeme := ts.map fun t => ⟨t, 0⟩
    (expression (lexemes [.name "f", .leftParen, .eq, .boolean true, .coalesce, .text "x",
        .rightParen, .finish])).toOption
      = (expression (lexemes [.name "f", .leftParen, .null, .coalesce, .text "x", .rightParen,
        .finish])).toOption ∧
    ∀ p, expression (lexemes [.name "f", .leftParen, .text "x", .coalesce, .text "y", .comma, .eq,
      .boolean true, .rightParen, .finish]) ≠ .ok p := by
  have hUnread (p : Phrase) : ¬ Derives NoRecovery [.eq, .boolean true] p := by
    intro h
    cases h.isInfix_head rfl
  have hGarbled : Garbled [.eq, .boolean true] := by
    refine ⟨by decide, by decide, by decide, fun p => hUnread _⟩
  refine ⟨?_, ?_⟩
  · exact recovery_in_scope.1 [.name "f", .leftParen] _ [.text "x", .rightParen, .finish] _ _
      (Or.inr ⟨.leftParen, rfl, rfl⟩) hGarbled rfl rfl
  · refine recovery_in_scope.2 "f" [[.text "x", .coalesce, .text "y"], [.eq, .boolean true]] _
      (by decide) (by decide) ⟨_, List.mem_cons_of_mem _ List.mem_cons_self, by decide, ?_⟩ rfl
    exact fun p => hUnread _

end TextTemplate.Parser
