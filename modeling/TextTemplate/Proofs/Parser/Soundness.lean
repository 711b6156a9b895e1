import TextTemplate.Proofs.Parser.Grammar

/-!
# What the parser reads is derived

Every reader of the parser uses up a run of lexemes that the grammar derives, with recovery from
the operands that the search for `??` passes over. The result is the derived one.

* `readsWith`: the statement for all readers, by induction on the bound on steps.
* `expression_derives`: the statement for a whole expression.
-/

namespace TextTemplate.Parser

open Grammar

/-! ## Steps of the readers -/

theorem andThen_eq_done_iff {α β : Type} {p : Parsed α} {next : α → List Lexeme → Parsed β}
    {b : β} {rest : List Lexeme} :
    p.andThen next = .done b rest ↔
      ∃ a middle, p = .done a middle ∧ next a middle = .done b rest := by
  constructor
  · intro h
    cases p with
    | done a middle => exact ⟨a, middle, rfl, h⟩
    | fault f => cases h
    | exhausted => cases h
  · rintro ⟨a, middle, rfl, h⟩
    exact h

theorem eq_cons_of_current {lexemes : List Lexeme} {t : Token} (h : current lexemes = t)
    (hFinish : t ≠ .finish) : ∃ lexeme, lexeme.token = t ∧ lexemes = lexeme :: lexemes.tail := by
  cases lexemes with
  | nil => exact absurd h.symm hFinish
  | cons lexeme rest => exact ⟨lexeme, h, rfl⟩

theorem expect_eq_done {t : Token} {what : String} {lexemes rest : List Lexeme} {u : Unit}
    (h : expect t what lexemes = .done u rest) : current lexemes = t ∧ rest = lexemes.tail := by
  unfold expect at h
  split at h
  · rename_i ht
    cases h
    exact ⟨ht, rfl⟩
  · cases h

theorem comparison?_eq_some_iff {t : Token} {op : Comparison} :
    comparison? t = some op ↔ t = op.token := by
  cases t <;> cases op <;> simp [comparison?, Comparison.token]

theorem fieldName?_eq_some_iff {t : Token} {name : String} :
    fieldName? t = some name ↔ Field t name := by
  constructor
  · intro h
    cases t <;> simp only [fieldName?, Option.some.injEq, reduceCtorEq] at h
    · exact h ▸ .name _
    · rename_i b
      cases b
      · exact h ▸ .no
      · exact h ▸ .yes
    · exact h ▸ .null
  · rintro (_ | _ | _ | _) <;> rfl

theorem indexOf?_eq_some_iff {x : Number} {i : Nat} :
    indexOf? x = some i ↔
      ∃ n : Nat, x.whole? = some (n : Int) ∧ i = min n (Path.indexLimit - 1) := by
  unfold indexOf?
  cases x.whole? with
  | none => simp
  | some whole =>
    by_cases hWhole : 0 ≤ whole
    · obtain ⟨n, rfl⟩ := Int.eq_ofNat_of_zero_le hWhole
      constructor
      · intro h
        exact ⟨n, rfl, by simpa [eq_comm] using h⟩
      · rintro ⟨m, hm, rfl⟩
        cases hm
        simp
    · simp only [hWhole, if_false, reduceCtorEq, false_iff, not_exists, not_and]
      intro n hn
      cases hn
      exact absurd (Int.natCast_nonneg n) hWhole

theorem plainName?_eq_some_iff {p : Part} {name : String} :
    plainName? p = some name ↔ p = .variable name ∧ PlainName name := by
  match p with
  | .variable path =>
    have hPlain : (path.toList.any fun c => c == '.' || c == '[') = false ↔ PlainName path := by
      simp [PlainName]
    rw [plainName?, Part.variable.injEq]
    split
    · rename_i hAny
      simp only [reduceCtorEq, false_iff, not_and]
      rintro rfl hName
      rw [hPlain.mpr hName] at hAny
      cases hAny
    · rename_i hAny
      have hName := hPlain.mp (by simpa using hAny)
      constructor
      · intro h
        cases h
        exact ⟨rfl, hName⟩
      · rintro ⟨rfl, -⟩
        rfl
  | .text _ | .literal _ | .call _ _ | .coalesce _ _ | .forEach _ _ _ _ => simp [plainName?]

theorem forEachOf_eq_ok_iff {args : List Part} {p : Part} :
    forEachOf args = .ok p ↔
      (∃ item collection body, args = [.variable item, collection, body] ∧ PlainName item ∧
        p = .forEach item none collection body) ∨
      (∃ item index collection body, args = [.variable item, .variable index, collection, body] ∧
        PlainName item ∧ PlainName index ∧ p = .forEach item (some index) collection body) := by
  constructor
  · intro h
    unfold forEachOf at h
    split at h
    · split at h
      · rename_i hItem
        obtain ⟨rfl, hPlain⟩ := plainName?_eq_some_iff.mp hItem
        cases h
        exact Or.inl ⟨_, _, _, rfl, hPlain, rfl⟩
      · cases h
    · split at h
      · rename_i hItem
        obtain ⟨rfl, hPlain⟩ := plainName?_eq_some_iff.mp hItem
        split at h
        · rename_i hIndex
          obtain ⟨rfl, hPlainIndex⟩ := plainName?_eq_some_iff.mp hIndex
          cases h
          exact Or.inr ⟨_, _, _, _, rfl, hPlain, hPlainIndex, rfl⟩
        · cases h
      · cases h
    · cases h
  · rintro (⟨item, collection, body, rfl, hItem, rfl⟩ |
      ⟨item, index, collection, body, rfl, hItem, hIndex, rfl⟩)
    · have h := plainName?_eq_some_iff.mpr ⟨rfl, hItem⟩
      simp [forEachOf, h]
    · have h := plainName?_eq_some_iff.mpr ⟨rfl, hItem⟩
      have h' := plainName?_eq_some_iff.mpr ⟨rfl, hIndex⟩
      simp [forEachOf, h, h']

/-! ## Readers use up derived runs -/

/-- The lexemes used up on the way to the rest are read as the phrase. -/
def Reads (lexemes rest : List Lexeme) (φ : Phrase) : Prop :=
  ∃ used, lexemes = used ++ rest ∧ Derives Skipped (tokens used) φ

theorem segments_trail {lexemes rest : List Lexeme} {path : Path}
    (h : segments lexemes = .done path rest) :
    ∃ used, lexemes = used ++ rest ∧ Trail (tokens used) path := by
  fun_induction segments lexemes generalizing path with
  | case1 =>
    cases h
    exact ⟨[], rfl, .nil⟩
  | case3 dot hDot field after name hName ih =>
    obtain ⟨inner, middle, hInner, hDone⟩ := andThen_eq_done_iff.mp h
    cases hDone
    obtain ⟨used, rfl, hTrail⟩ := ih hInner
    refine ⟨dot :: field :: used, rfl, ?_⟩
    rw [tokens_cons, tokens_cons, hDot]
    exact .field (fieldName?_eq_some_iff.mp hName) hTrail
  | case7 opening hOpening index x hNumber i hIndex closing after hClosing ih =>
    obtain ⟨inner, middle, hInner, hDone⟩ := andThen_eq_done_iff.mp h
    cases hDone
    obtain ⟨used, rfl, hTrail⟩ := ih hInner
    obtain ⟨n, hWhole, rfl⟩ := indexOf?_eq_some_iff.mp hIndex
    refine ⟨opening :: index :: closing :: used, rfl, ?_⟩
    rw [tokens_cons, tokens_cons, tokens_cons, hOpening, hNumber, hClosing]
    exact .index hWhole hTrail
  | case11 =>
    cases h
    exact ⟨[], rfl, .nil⟩
  | _ => cases h

theorem pathPart_reads {root : Lexeme} {name : String} {lexemes rest : List Lexeme} {p : Part}
    (hRoot : root.token = .name name) (h : pathPart name lexemes = .done p rest) :
    Reads (root :: lexemes) rest (.operand p) := by
  obtain ⟨path, middle, hPath, hDone⟩ := andThen_eq_done_iff.mp h
  cases hDone
  obtain ⟨used, rfl, hTrail⟩ := segments_trail hPath
  refine ⟨root :: used, rfl, ?_⟩
  rw [tokens_cons, hRoot]
  exact .path hTrail

theorem callOf_eq_done {name : String} {opening : Nat} {args : List Part} {p : Part}
    {lexemes rest : List Lexeme} (h : callOf name opening args lexemes = .done p rest) :
    rest = lexemes ∧ ((name ≠ "forEach" ∧ p = .call name args) ∨
      (name = "forEach" ∧ forEachOf args = .ok p)) := by
  unfold callOf at h
  split at h
  · rename_i hName
    split at h
    · rename_i hArgs
      cases h
      exact ⟨rfl, Or.inr ⟨hName, hArgs⟩⟩
    · cases h
  · rename_i hName
    cases h
    exact ⟨rfl, Or.inl ⟨hName, rfl⟩⟩

/-- A call whose arguments are read, with its parentheses. -/
theorem callOf_derives {name : String} {opening : Nat} {args : List Part} {p : Part}
    {ts : List Token} {lexemes rest : List Lexeme} (hArgs : Derives Skipped ts (.arguments args))
    (h : callOf name opening args lexemes = .done p rest) :
    rest = lexemes ∧
      Derives Skipped (.name name :: (.leftParen :: ts ++ [.rightParen])) (.operand p) := by
  obtain ⟨hRest, ⟨hName, rfl⟩ | ⟨rfl, hForEach⟩⟩ := callOf_eq_done h
  · exact ⟨hRest, .call hName hArgs⟩
  · rcases forEachOf_eq_ok_iff.mp hForEach with ⟨item, collection, body, rfl, hItem, rfl⟩ |
      ⟨item, index, collection, body, rfl, hItem, hIndex, rfl⟩
    · exact ⟨hRest, .forEach hItem hArgs⟩
    · exact ⟨hRest, .forEachIndexed hItem hIndex hArgs⟩

theorem emptyCallOf_derives {name : String} {opening : Nat} {p : Part} {lexemes rest : List Lexeme}
    (h : callOf name opening [] lexemes = .done p rest) :
    rest = lexemes ∧ Derives Skipped [.name name, .leftParen, .rightParen] (.operand p) := by
  obtain ⟨hRest, ⟨hName, rfl⟩ | ⟨rfl, hForEach⟩⟩ := callOf_eq_done h
  · exact ⟨hRest, .emptyCall hName⟩
  · cases hForEach

/-- What all readers use up with so many steps is derived. -/
structure ReadsWith (fuel : Nat) : Prop where
  ternary {lexemes rest : List Lexeme} {p : Part} :
    ternary fuel lexemes = .done p rest → Reads lexemes rest (.ternary p)
  coalesce {lexemes rest : List Lexeme} {p : Part} :
    coalesce fuel lexemes = .done p rest → Reads lexemes rest (.coalesce p)
  coalesceOperand {lexemes rest : List Lexeme} {p : Part} :
    coalesceOperand fuel lexemes = .done p rest →
      Reads lexemes rest (.comparison p) ∨
        (p = .literal .null ∧ coalesceFrom? 0 lexemes = some rest)
  comparison {lexemes rest : List Lexeme} {p : Part} :
    comparison fuel lexemes = .done p rest → Reads lexemes rest (.comparison p)
  operand {lexemes rest : List Lexeme} {p : Part} :
    operand fuel lexemes = .done p rest → Reads lexemes rest (.operand p)
  arguments {name : String} {lexemes rest : List Lexeme} {ps : List Part} :
    arguments name fuel lexemes = .done ps rest →
      ∃ used closing, lexemes = used ++ closing :: rest ∧ closing.token = .rightParen ∧
        Derives Skipped (tokens used) (.arguments ps)

section Step

variable {fuel : Nat} {lexemes rest : List Lexeme} {p : Part}

theorem ReadsWith.ternary_step (ih : ReadsWith fuel)
    (h : Parser.ternary (fuel + 1) lexemes = .done p rest) : Reads lexemes rest (.ternary p) := by
  rw [Parser.ternary] at h
  obtain ⟨condition, middle, hCondition, hNext⟩ := andThen_eq_done_iff.mp h
  obtain ⟨c, rfl, hc⟩ := ih.coalesce hCondition
  split at hNext
  · rename_i hQuestion
    obtain ⟨question, hToken, hMiddle⟩ := eq_cons_of_current hQuestion (by simp)
    obtain ⟨yes, afterYes, hYes, hNext⟩ := andThen_eq_done_iff.mp hNext
    obtain ⟨y, hTail, hy⟩ := ih.ternary hYes
    obtain ⟨_, afterColon, hExpect, hNext⟩ := andThen_eq_done_iff.mp hNext
    obtain ⟨hColon, rfl⟩ := expect_eq_done hExpect
    obtain ⟨colon, hColonToken, hAfterYes⟩ := eq_cons_of_current hColon (by simp)
    obtain ⟨no, afterNo, hNo, hNext⟩ := andThen_eq_done_iff.mp hNext
    obtain ⟨n, hAfterColon, hn⟩ := ih.ternary hNo
    cases hNext
    refine ⟨c ++ question :: (y ++ colon :: n), ?_, ?_⟩
    · rw [hMiddle, hTail, hAfterYes, hAfterColon]
      simp
    · simp only [tokens_append, tokens_cons, hToken, hColonToken]
      exact .conditional hc hy hn
  · cases hNext
    exact ⟨c, rfl, .unconditional hc⟩

theorem ReadsWith.coalesce_step (ih : ReadsWith fuel)
    (h : Parser.coalesce (fuel + 1) lexemes = .done p rest) :
    Reads lexemes rest (.coalesce p) := by
  rw [Parser.coalesce] at h
  obtain ⟨left, middle, hLeft, h⟩ := andThen_eq_done_iff.mp h
  split at h
  · rename_i hCoalesce
    obtain ⟨coalesce, hToken, hMiddle⟩ := eq_cons_of_current hCoalesce (by simp)
    obtain ⟨right, afterRight, hRight, h⟩ := andThen_eq_done_iff.mp h
    obtain ⟨r, hTail, hr⟩ := ih.coalesce hRight
    cases h
    rcases ih.coalesceOperand hLeft with ⟨l, rfl, hl⟩ | ⟨rfl, hFrom⟩
    · refine ⟨l ++ coalesce :: r, ?_, ?_⟩
      · rw [hMiddle, hTail]
        simp
      · simp only [tokens_append, tokens_cons, hToken]
        exact .coalesce hl hr
    · obtain ⟨passed, found, after, rfl, rfl, hFound, hPassed⟩ := coalesceFrom?_eq_some_iff.mp hFrom
      refine ⟨passed ++ found :: r, ?_, ?_⟩
      · rw [List.tail_cons] at hTail
        rw [hTail]
        simp
      · simp only [tokens_append, tokens_cons, hFound]
        exact .recovered hPassed hr
  · rename_i hCoalesce
    cases h
    rcases ih.coalesceOperand hLeft with ⟨l, rfl, hl⟩ | ⟨rfl, hFrom⟩
    · exact ⟨l, rfl, .single hl⟩
    · obtain ⟨passed, found, after, rfl, rfl, hFound, -⟩ := coalesceFrom?_eq_some_iff.mp hFrom
      exact absurd hFound hCoalesce

theorem ReadsWith.coalesceOperand_step (ih : ReadsWith fuel)
    (h : Parser.coalesceOperand (fuel + 1) lexemes = .done p rest) :
    Reads lexemes rest (.comparison p) ∨
      (p = .literal .null ∧ coalesceFrom? 0 lexemes = some rest) := by
  rw [Parser.coalesceOperand] at h
  split at h
  · rename_i hComparison
    split at h
    · cases h
      exact Or.inl (ih.comparison hComparison)
    · split at h
      · rename_i hFrom
        cases h
        exact Or.inr ⟨rfl, hFrom⟩
      · cases h
        exact Or.inl (ih.comparison hComparison)
  · split at h
    · rename_i hFrom
      cases h
      exact Or.inr ⟨rfl, hFrom⟩
    · cases h
  · cases h

theorem ReadsWith.comparison_step (ih : ReadsWith fuel)
    (h : Parser.comparison (fuel + 1) lexemes = .done p rest) :
    Reads lexemes rest (.comparison p) := by
  rw [Parser.comparison] at h
  obtain ⟨left, middle, hLeft, hNext⟩ := andThen_eq_done_iff.mp h
  obtain ⟨l, rfl, hl⟩ := ih.operand hLeft
  split at hNext
  · rename_i op hOp
    have hCurrent := comparison?_eq_some_iff.mp hOp
    obtain ⟨operator, hToken, hMiddle⟩ :=
      eq_cons_of_current hCurrent (by cases op <;> simp [Comparison.token])
    obtain ⟨right, afterRight, hRight, hNext⟩ := andThen_eq_done_iff.mp hNext
    obtain ⟨r, hTail, hr⟩ := ih.operand hRight
    cases hNext
    refine ⟨l ++ operator :: r, ?_, ?_⟩
    · rw [hMiddle, hTail]
      simp
    · simp only [tokens_append, tokens_cons, hToken]
      exact .comparison op hl hr
  · cases hNext
    exact ⟨l, rfl, .uncompared hl⟩

/-- A name with an opening parenthesis after it. -/
theorem ReadsWith.call_reads (ih : ReadsWith fuel) {name : String} {root opening : Lexeme}
    {inside : List Lexeme} (hRoot : root.token = .name name)
    (hOpening : opening.token = .leftParen)
    (h : (if current inside = .rightParen then callOf name opening.position [] inside.tail
      else (Parser.arguments name fuel inside).andThen fun args rest =>
        callOf name opening.position args rest) = .done p rest) :
    Reads (root :: opening :: inside) rest (.operand p) := by
  split at h
  · rename_i hParen
    obtain ⟨closing, hClosing, hInside⟩ := eq_cons_of_current hParen (by simp)
    obtain ⟨rfl, hCall⟩ := emptyCallOf_derives h
    refine ⟨[root, opening, closing], by rw [hInside]; rfl, ?_⟩
    simpa [hRoot, hOpening, hClosing] using hCall
  · obtain ⟨args, middle, hArgs, hNext⟩ := andThen_eq_done_iff.mp h
    obtain ⟨used, closing, rfl, hClosing, hUsed⟩ := ih.arguments hArgs
    obtain ⟨rfl, hCall⟩ := callOf_derives hUsed hNext
    refine ⟨root :: opening :: (used ++ [closing]), by simp, ?_⟩
    simpa [hRoot, hOpening, hClosing] using hCall

/-- An expression in parentheses. -/
theorem ReadsWith.parentheses_reads (ih : ReadsWith fuel) {opening : Lexeme}
    {inside : List Lexeme} (hOpening : opening.token = .leftParen)
    (h : ((Parser.ternary fuel inside).andThen fun part rest =>
      (expect .rightParen "')'" rest).andThen fun _ rest => .done part rest) = .done p rest) :
    Reads (opening :: inside) rest (.operand p) := by
  obtain ⟨inner, middle, hInner, hNext⟩ := andThen_eq_done_iff.mp h
  obtain ⟨used, rfl, hUsed⟩ := ih.ternary hInner
  obtain ⟨_, after, hExpect, hNext⟩ := andThen_eq_done_iff.mp hNext
  obtain ⟨hParen, rfl⟩ := expect_eq_done hExpect
  obtain ⟨closing, hClosing, hMiddle⟩ := eq_cons_of_current hParen (by simp)
  cases hNext
  refine ⟨opening :: (used ++ [closing]), by rw [hMiddle]; simp, ?_⟩
  simp only [tokens_cons, tokens_append, tokens_nil, hOpening, hClosing]
  exact .parentheses hUsed

theorem reads_token {first : Lexeme} {t : Token} {φ : Phrase} (hFirst : first.token = t)
    (h : Derives Skipped [t] φ) : Reads (first :: rest) rest φ :=
  ⟨[first], rfl, by simpa [hFirst] using h⟩

theorem ReadsWith.operand_step (ih : ReadsWith fuel)
    (h : Parser.operand (fuel + 1) lexemes = .done p rest) : Reads lexemes rest (.operand p) := by
  rw [Parser.operand] at h
  cases lexemes with
  | nil => cases h
  | cons first lexemes =>
    rw [List.tail_cons] at h
    -- Every case starts with a token of its own.
    split at h <;> rename_i hFirst
    · exact ih.parentheses_reads hFirst h
    · cases h
      exact reads_token hFirst (.number _)
    · split at h
      · rename_i x hNumber
        obtain ⟨number, hToken, hLexemes⟩ := eq_cons_of_current hNumber (by simp)
        cases h
        have hMinus : first.token = .minus := hFirst
        refine ⟨[first, number], by rw [hLexemes]; rfl, ?_⟩
        simp only [tokens_cons, tokens_nil, hMinus, hToken]
        exact .negative x
      · cases h
    · cases h
      exact reads_token hFirst (.text _)
    · cases h
      exact reads_token hFirst (.boolean _)
    · cases h
      exact reads_token hFirst .null
    · split at h
      · rename_i hParen
        obtain ⟨opening, hOpening, hLexemes⟩ := eq_cons_of_current hParen (by simp)
        rw [hLexemes] at h ⊢
        exact ih.call_reads hFirst hOpening h
      · exact pathPart_reads hFirst h
    · cases h
    · cases h

theorem ReadsWith.arguments_step (ih : ReadsWith fuel) {name : String} {ps : List Part}
    (h : Parser.arguments name (fuel + 1) lexemes = .done ps rest) :
    ∃ used closing, lexemes = used ++ closing :: rest ∧ closing.token = .rightParen ∧
      Derives Skipped (tokens used) (.arguments ps) := by
  rw [Parser.arguments] at h
  obtain ⟨arg, middle, hArg, hNext⟩ := andThen_eq_done_iff.mp h
  obtain ⟨used, rfl, hUsed⟩ := ih.ternary hArg
  split at hNext
  · rename_i hComma
    obtain ⟨comma, hToken, hMiddle⟩ := eq_cons_of_current hComma (by simp)
    obtain ⟨args, afterArgs, hArgs, hNext⟩ := andThen_eq_done_iff.mp hNext
    obtain ⟨more, closing, hTail, hClosing, hMore⟩ := ih.arguments hArgs
    cases hNext
    refine ⟨used ++ comma :: more, closing, ?_, hClosing, ?_⟩
    · rw [hMiddle, hTail]
      simp
    · simp only [tokens_append, tokens_cons, hToken]
      exact .moreArguments hUsed hMore
  · rename_i hParen
    obtain ⟨closing, hToken, hMiddle⟩ := eq_cons_of_current hParen (by simp)
    cases hNext
    exact ⟨used, closing, by rw [← hMiddle], hToken, .lastArgument hUsed⟩
  · cases hNext
  · cases hNext

end Step

theorem readsWith (fuel : Nat) : ReadsWith fuel := by
  induction fuel with
  | zero => constructor <;> intros <;> contradiction
  | succ fuel ih =>
    exact ⟨ih.ternary_step, ih.coalesce_step, ih.coalesceOperand_step, ih.comparison_step,
      ih.operand_step, ih.arguments_step⟩

/-! ## Whole expressions -/

theorem expression_eq_ok_iff {lexemes : List Lexeme} {p : Part} :
    expression lexemes = .ok p ↔
      ∃ rest, ternary (fuelFor lexemes) lexemes = .done p rest ∧ current rest = .finish := by
  unfold expression
  cases ternary (fuelFor lexemes) lexemes with
  | done q rest =>
    by_cases hFinish : current rest = .finish
    · simp only [hFinish, if_true, Except.ok.injEq, Parsed.done.injEq]
      constructor
      · rintro rfl
        exact ⟨rest, ⟨rfl, rfl⟩, hFinish⟩
      · rintro ⟨_, ⟨rfl, -⟩, -⟩
        rfl
    · simp only [hFinish, if_false, Parsed.done.injEq, reduceCtorEq, false_iff, not_exists, not_and]
      rintro rest' ⟨-, rfl⟩
      exact hFinish
  | fault f => simp
  | exhausted => simp

/-- The search for `??` does not pass over the end mark. -/
theorem finish_not_mem_of_depthAfter? {depth next : Nat} {ts : List Token}
    (h : depthAfter? depth ts = some next) : .finish ∉ ts := by
  induction ts generalizing depth with
  | nil => simp
  | cons t ts ih =>
    rw [depthAfter?_cons] at h
    obtain ⟨middle, hStep, hRest⟩ := Option.bind_eq_some_iff.mp h
    rw [List.mem_cons, not_or]
    refine ⟨?_, ih hRest⟩
    rintro rfl
    cases hStep

/-- An expression that is read is derived as a whole, when its only end mark is the last lexeme. -/
theorem expression_derives {lexemes : List Lexeme} {ts : List Token} {p : Part}
    (hTokens : tokens lexemes = ts ++ [.finish]) (hFinish : .finish ∉ ts)
    (h : expression lexemes = .ok p) : Derives Skipped ts (.ternary p) := by
  obtain ⟨rest, hTernary, hRest⟩ := expression_eq_ok_iff.mp h
  obtain ⟨used, rfl, hUsed⟩ := (readsWith _).ternary hTernary
  have hNoMark := hUsed.finish_not_mem fun _ => finish_not_mem_of_depthAfter?
  rw [tokens_append, List.append_eq_append_iff] at hTokens
  rcases hTokens with ⟨more, rfl, hMore⟩ | ⟨more, hMore, hEnd⟩
  · cases more with
    | nil => rwa [List.append_nil]
    | cons t more =>
      obtain ⟨lexeme, _, rfl, rfl, -⟩ := tokens_eq_cons_iff.mp hMore
      rw [current] at hRest
      simp [hRest] at hFinish
  · cases more with
    | nil => rwa [hMore, List.append_nil] at hUsed
    | cons t more =>
      obtain ⟨rfl, -⟩ := List.cons.inj hEnd
      simp [hMore] at hNoMark

end TextTemplate.Parser
