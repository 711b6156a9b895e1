import Mathlib.Data.Bool.AllAny
import Mathlib.Data.List.DropRight
import TextTemplate.Proofs.Lexer.Sources
import TextTemplate.Proofs.Parser.Recognition
import TextTemplate.Proofs.Suggestion.Completion
import TextTemplate.Proofs.Suggestion.Ranking

/-!
# Completions inside of an open call

The scan that looks for the argument being typed knows quotes, parentheses and commas only. It
passes over the complete arguments in front as the lexer would, except that it knows no escapes: a
string literal that holds its own quote ends too early for it.

* `reaches_of_next?`, `reaches_of_scans`: the scan passes over a token, and over a text that
  consists of tokens, and counts the parentheses among them.
* `AtArgument.next`: it passes over a complete argument.
* `exists_of_mem_forFragment`: completions are suggestions, but for the expression.
* `not_completesEveryArgument`: a literal that holds its own quote is not passed over.
* `completes_argument`: the statement for arguments without such literals.
-/

namespace TextTemplate

open Lexer Grammar
open TextTemplate.Parser (Nested NestedWith stackAfter? stackAfter?_cons stackStep_eq_some_iff)

namespace Suggestion

namespace CallScan

/-! ## Characters -/

/-- A character that neither quotes nor belongs to a call. -/
structure Filler (c : Char) : Prop where
  quote : ¬ (c = '\'' ∨ c = '"')
  opening : c ≠ '('
  closing : c ≠ ')'
  comma : c ≠ ','

instance (c : Char) : Decidable (Filler c) :=
  decidable_of_iff (¬ (c = '\'' ∨ c = '"') ∧ c ≠ '(' ∧ c ≠ ')' ∧ c ≠ ',')
    ⟨fun ⟨hQuote, hOpening, hClosing, hComma⟩ => ⟨hQuote, hOpening, hClosing, hComma⟩,
      fun h => ⟨h.quote, h.opening, h.closing, h.comma⟩⟩

variable {s : CallScan} {c : Char}

theorem step_filler (h : Filler c) (hQuote : s.quote = none) : s.step c = s.keep c := by
  unfold step
  rw [hQuote]
  dsimp only
  rw [if_neg h.quote, if_neg h.opening, if_neg h.closing, if_neg fun hComma => h.comma hComma.1]

theorem foldl_filler {text : List Char} (h : ∀ c ∈ text, Filler c) (hQuote : s.quote = none) :
    text.foldl step s = { s with argument := s.argument.map (text.reverse ++ ·) } := by
  induction text generalizing s with
  | nil => simp
  | cons c rest ih =>
    obtain ⟨hc, hRest⟩ := List.forall_mem_cons.mp h
    have hKept : (s.keep c).quote = none := hQuote
    rw [List.foldl_cons, step_filler hc hQuote, ih hRest hKept]
    simp [keep, Function.comp_def]

theorem step_quote (h : c = '\'' ∨ c = '"') (hQuote : s.quote = none) :
    (s.step c).quote = some c ∧ (s.step c).depth = s.depth := by
  unfold step
  rw [hQuote]
  dsimp only
  rw [if_pos h]
  exact ⟨rfl, rfl⟩

theorem step_quoted {quote : Char} (hQuote : s.quote = some quote) :
    (s.step c).quote = (if c = quote then none else some quote) ∧ (s.step c).depth = s.depth := by
  unfold step
  rw [hQuote]
  exact ⟨rfl, rfl⟩

theorem foldl_quoted {quote : Char} {text : List Char} (h : quote ∉ text)
    (hQuote : s.quote = some quote) :
    (text.foldl step s).quote = some quote ∧ (text.foldl step s).depth = s.depth := by
  induction text generalizing s with
  | nil => exact ⟨hQuote, rfl⟩
  | cons c rest ih =>
    obtain ⟨hc, hRest⟩ := not_or.mp (mt List.mem_cons.mpr h)
    obtain ⟨hStep, hDepth⟩ := step_quoted (c := c) hQuote
    rw [if_neg (Ne.symm hc)] at hStep
    obtain ⟨hEnd, hSame⟩ := ih hRest hStep
    exact ⟨hEnd, hSame.trans hDepth⟩

/-! ## Texts -/

/-- Outside of quotes and in so many calls, the scan passes over the text and is outside of quotes
again, in as many calls as are said. -/
def Reaches (text : List Char) (depth next : Nat) : Prop :=
  ∀ s : CallScan, s.quote = none → s.depth = depth →
    (text.foldl step s).quote = none ∧ (text.foldl step s).depth = next

theorem Reaches.nil (depth : Nat) : Reaches [] depth depth := fun _ hQuote hDepth =>
  ⟨hQuote, hDepth⟩

theorem Reaches.append {text more : List Char} {depth between next : Nat}
    (hText : Reaches text depth between) (hMore : Reaches more between next) :
    Reaches (text ++ more) depth next := by
  intro s hQuote hDepth
  obtain ⟨hOutside, hBetween⟩ := hText s hQuote hDepth
  rw [List.foldl_append]
  exact hMore _ hOutside hBetween

theorem Reaches.filler {text : List Char} (h : ∀ c ∈ text, Filler c) (depth : Nat) :
    Reaches text depth depth := by
  intro s hQuote hDepth
  rw [foldl_filler h hQuote]
  exact ⟨hQuote, hDepth⟩

theorem Reaches.literal {quote : Char} {text : List Char} (hQuote : quote = '\'' ∨ quote = '"')
    (h : quote ∉ text) (depth : Nat) : Reaches (quote :: (text ++ [quote])) depth depth := by
  intro s hOutside hDepth
  obtain ⟨hOpen, hSame⟩ := step_quote hQuote hOutside
  obtain ⟨hInside, hStill⟩ := foldl_quoted h hOpen
  obtain ⟨hClosed, hEnd⟩ := step_quoted (c := quote) hInside
  rw [if_pos rfl] at hClosed
  rw [List.foldl_cons, List.foldl_append, List.foldl_cons, List.foldl_nil]
  exact ⟨hClosed, by rw [hEnd, hStill, hSame, hDepth]⟩

/-- How many calls are open after a token. -/
def parensAfter (depth : Nat) : Token → Nat
  | .leftParen => depth + 1
  | .rightParen => depth - 1
  | _ => depth

theorem Reaches.opening (depth : Nat) : Reaches ['('] depth (depth + 1) := by
  intro s hQuote hDepth
  simp [step, hQuote, hDepth]

theorem Reaches.closing (depth : Nat) : Reaches [')'] depth (depth - 1) := by
  intro s hQuote hDepth
  simp [step, hQuote, hDepth]

/-- A comma starts another argument if a call is open; the calls stay as they are. -/
theorem Reaches.comma (depth : Nat) : Reaches [','] depth depth := by
  intro s hQuote hDepth
  have hStep : s.step ',' = if 0 < s.depth then ⟨s.depth, none, some []⟩ else s.keep ',' := by
    simp [step, hQuote]
  rw [List.foldl_cons, List.foldl_nil, hStep]
  split
  · exact ⟨rfl, hDepth⟩
  · exact ⟨hQuote, hDepth⟩

/-! ## Tokens -/

theorem filler_of_class {p : Char → Bool} (hClass : ['\'', '"', '(', ')', ','].any p = false)
    (h : p c = true) : Filler c := by
  have hNe := ne_of_class hClass h
  simp only [List.forall_mem_cons] at hNe
  obtain ⟨hSingle, hDouble, hOpening, hClosing, hComma, -⟩ := hNe
  exact ⟨not_or.mpr ⟨hSingle, hDouble⟩, hOpening, hClosing, hComma⟩

theorem filler_of_isDigit (h : c.isDigit = true) : Filler c :=
  filler_of_class (p := Char.isDigit) (by decide) h

theorem filler_of_isNamePart (h : isNamePart c = true) : Filler c :=
  filler_of_class (p := isNamePart) (by decide +kernel) h

theorem filler_of_isBlank (h : Text.isBlank c = true) : Filler c :=
  filler_of_class (p := Text.isBlank) (by decide) h

theorem filler_of_stray (h : Stray c) : Filler c := by
  refine ⟨h.quote, ?_, ?_, ?_⟩
  · rintro rfl
    exact h.symbol .leftParen rfl
  · rintro rfl
    exact h.symbol .rightParen rfl
  · rintro rfl
    exact h.symbol .comma rfl

/-- The quote stands in the source of a string literal only if it stands in the literal. -/
theorem not_mem_of_quoted {quote : Char} {source body : List Char}
    (hQuote : quote = '\'' ∨ quote = '"') (h : Quoted quote source body) (hBody : quote ∉ body) :
    quote ∉ source := by
  induction h with
  | nil => exact List.not_mem_nil
  | @escape c source body _ ih =>
    obtain ⟨hHead, hTail⟩ := not_or.mp (mt List.mem_cons.mpr hBody)
    have hEscaped : quote ≠ c := by
      rintro rfl
      refine hHead ?_
      rcases hQuote with rfl | rfl <;> rfl
    simp [quote_ne_backslash hQuote, hEscaped, ih hTail]
  | plain hNe _ _ ih =>
    obtain ⟨-, hTail⟩ := not_or.mp (mt List.mem_cons.mpr hBody)
    simp [Ne.symm hNe, ih hTail]

theorem parensAfter_word (word : String) (depth : Nat) :
    parensAfter depth (wordToken word) = depth := by
  unfold wordToken
  repeat' split
  all_goals rfl

theorem reaches_symbol {source : List Char} {t : Token} (h : symbol? t = some source)
    (depth : Nat) : Reaches source depth (parensAfter depth t) := by
  cases t <;> cases h
  case leftParen => exact .opening depth
  case rightParen => exact .closing depth
  case comma => exact .comma depth
  all_goals exact .filler (List.all_iff_forall_prop.mp (by decide)) depth

/-- The scan passes over a token, unless it is a string literal that holds its own quote. -/
theorem reaches_of_next? {rest after : List Char} {t : Token} (hBlank : Text.isBlank c = false)
    (h : next? c rest = some (t, after)) (hQuoted : ∀ s, t = .text s → c ∉ s.toList)
    (depth : Nat) : ∃ used, c :: rest = used ++ after ∧ Reaches used depth (parensAfter depth t) := by
  obtain ⟨source, hText, hWrites⟩ := exists_writes_of_next? hBlank h
  refine ⟨source, hText, ?_⟩
  cases hWrites with
  | word hName =>
    rw [parensAfter_word]
    exact .filler (fun d hd => filler_of_isNamePart ((isWord_iff.mpr hName).isNamePart d hd)) depth
  | numeral _ hWhole hFraction =>
    refine .filler (fun d hd => ?_) depth
    rcases digit_or_point hWhole hFraction hd with hDigit | rfl
    · exact filler_of_isDigit hDigit
    · decide
  | literal hQuote hSource =>
    obtain ⟨rfl, -⟩ := List.cons.inj hText
    have hOwn := hQuoted _ rfl
    rw [String.toList_ofList] at hOwn
    exact .literal hQuote (not_mem_of_quoted hQuote hSource hOwn) depth
  | symbol hSymbol => exact reaches_symbol hSymbol depth
  | stray hStray => exact .filler (List.forall_mem_singleton.mpr (filler_of_stray hStray)) depth

end CallScan

/-! ## Complete arguments -/

/-- The text of an expression that is derived without recovery. -/
def IsExpression (text : List Char) : Prop :=
  ∃ ts p, Scans text ts ∧ Derives NoRecovery ts (.ternary p)

/-- No string literal of the text holds its own quote; the lexer lets it in behind a backslash. -/
inductive PlainlyQuoted : List Char → Prop
  | nil : PlainlyQuoted []
  | blank {c : Char} {rest : List Char} :
      Text.isBlank c = true → PlainlyQuoted rest → PlainlyQuoted (c :: rest)
  | token {c : Char} {rest after : List Char} {t : Token} :
      Text.isBlank c = false → next? c rest = some (t, after) →
      (∀ s, t = .text s → c ∉ s.toList) → PlainlyQuoted after → PlainlyQuoted (c :: rest)

namespace CallScan

theorem reaches_of_scans {text : List Char} {ts : List Token} (h : Scans text ts)
    (hQuoted : PlainlyQuoted text) (depth : Nat) :
    Reaches text depth (ts.foldl parensAfter depth) := by
  induction h generalizing depth with
  | nil => exact .nil depth
  | @blank c rest ts hBlank _ ih =>
    cases hQuoted with
    | blank _ hRest =>
      have hFirst : Reaches [c] depth depth :=
        .filler (List.forall_mem_singleton.mpr (filler_of_isBlank hBlank)) depth
      exact hFirst.append (ih hRest depth)
    | token hNot =>
      rw [hBlank] at hNot
      cases hNot
  | @token c rest after t ts hBlank hNext _ ih =>
    cases hQuoted with
    | blank hNot =>
      rw [hNot] at hBlank
      cases hBlank
    | token _ hNext' hOwn hAfter =>
      cases hNext.symm.trans hNext'
      obtain ⟨used, hUsed, hToken⟩ := reaches_of_next? hBlank hNext hOwn depth
      rw [hUsed]
      exact hToken.append (ih hAfter _)

/-- The calls that are open beside those whose closing parentheses are awaited. -/
theorem foldl_parensAfter {allowed : Token → Bool} {stack next ts : List Token} (depth : Nat)
    (h : stackAfter? allowed stack ts = some next) :
    ts.foldl parensAfter (depth + stack.count .rightParen) = depth + next.count .rightParen := by
  induction ts generalizing stack with
  | nil =>
    cases h
    rfl
  | cons t ts ih =>
    rw [stackAfter?_cons] at h
    obtain ⟨middle, hStep, hRest⟩ := Option.bind_eq_some_iff.mp h
    have hParens : parensAfter (depth + stack.count .rightParen) t
        = depth + middle.count .rightParen := by
      rcases stackStep_eq_some_iff.mp hStep with
        ⟨awaited, hCloser, rfl⟩ | ⟨hClosing, rfl⟩ | ⟨hCloser, hClosing, rfl, -⟩
      · cases t <;> cases hCloser <;> simp [parensAfter, Nat.add_assoc]
      · cases t <;> cases hClosing <;> simp [parensAfter]
      · cases t <;> first | rfl | contradiction
    rw [List.foldl_cons, hParens]
    exact ih hRest

theorem reaches_of_isExpression {text : List Char} (h : IsExpression text)
    (hQuoted : PlainlyQuoted text) (depth : Nat) : Reaches text depth depth := by
  obtain ⟨ts, p, hScans, hDerives⟩ := h
  have hNested : stackAfter? (fun _ => true) [] ts = some [] :=
    (hDerives.nestedWith fun _ hGarbled => hGarbled.elim).nested
  have hParens := foldl_parensAfter depth hNested
  rw [List.count_nil, Nat.add_zero] at hParens
  have hReaches := reaches_of_scans hScans hQuoted depth
  rwa [hParens] at hReaches

/-- The scan stands in front of an argument of an open call. -/
structure AtArgument (s : CallScan) : Prop where
  quote : s.quote = none
  opened : 0 < s.depth
  argument : s.argument = some []

theorem atArgument_opening {s : CallScan} (h : s.quote = none) : (s.step '(').AtArgument := by
  unfold step
  rw [h]
  exact ⟨rfl, Nat.succ_pos _, rfl⟩

theorem atArgument_comma {s : CallScan} (h : s.quote = none) (hOpened : 0 < s.depth) :
    (s.step ',').AtArgument := by
  unfold step
  rw [h]
  dsimp only
  rw [if_neg (by decide), if_neg (by decide), if_neg (by decide), if_pos ⟨rfl, hOpened⟩]
  exact ⟨rfl, hOpened, rfl⟩

/-- Behind a complete argument and a comma, the next one starts. -/
theorem AtArgument.next {s : CallScan} (h : s.AtArgument) {text : List Char}
    (hText : IsExpression text) (hQuoted : PlainlyQuoted text) :
    ((text ++ [',']).foldl step s).AtArgument := by
  obtain ⟨hQuote, hDepth⟩ := reaches_of_isExpression hText hQuoted s.depth s h.quote rfl
  have hOpened := h.opened
  rw [← hDepth] at hOpened
  rw [List.foldl_append, List.foldl_cons, List.foldl_nil]
  exact atArgument_comma hQuote hOpened

theorem AtArgument.arguments {s : CallScan} (h : s.AtArgument) {arguments : List (List Char)}
    (hArguments : ∀ a ∈ arguments, IsExpression a ∧ PlainlyQuoted a) :
    ((arguments.flatMap (· ++ [','])).foldl step s).AtArgument := by
  induction arguments generalizing s with
  | nil => exact h
  | cons a rest ih =>
    obtain ⟨⟨hText, hQuoted⟩, hRest⟩ := List.forall_mem_cons.mp hArguments
    rw [List.flatMap_cons, List.foldl_append]
    exact ih (h.next hText hQuoted) hRest

end CallScan

open CallScan

/-- A call with complete arguments and the one that is being typed. -/
def openCall (function : List Char) (arguments : List (List Char)) (fragment : List Char) :
    List Char :=
  function ++ '(' :: (arguments.flatMap (· ++ [',']) ++ fragment)

/-- The argument being typed is what follows the complete ones. -/
theorem openArgument?_openCall {function fragment : List Char} {arguments : List (List Char)}
    (hFunction : ∀ c ∈ function, ¬ (c = '\'' ∨ c = '"'))
    (hArguments : ∀ a ∈ arguments, IsExpression a ∧ PlainlyQuoted a)
    (hFragment : ∀ c ∈ fragment, Filler c) :
    openArgument? (openCall function arguments fragment) = some (Text.trim fragment) := by
  have hOutside (s : CallScan) (h : s.quote = none) : (function.foldl step s).quote = none := by
    induction function generalizing s with
    | nil => exact h
    | cons c rest ih =>
      obtain ⟨hc, hRest⟩ := List.forall_mem_cons.mp hFunction
      refine ih hRest (s.step c) ?_
      unfold step
      rw [h]
      dsimp only
      rw [if_neg hc]
      repeat' split
      all_goals first | rfl | exact h
  have hStart := atArgument_opening (hOutside ⟨0, none, none⟩ rfl)
  have hLast := hStart.arguments hArguments
  unfold openArgument? openCall
  rw [List.foldl_append, List.foldl_cons, List.foldl_append, foldl_filler hFragment hLast.quote]
  dsimp only
  rw [if_neg hLast.opened.ne', hLast.argument]
  simp

/-! ## Completions -/

theorem mem_of_mem_scores {text : Suggestion → List Char} {pattern : List Char}
    {left : Alignment.Bonuses} {all : List Suggestion} {found : Suggestion × Int}
    (h : found ∈ Alignment.scores text pattern left all) : found.1 ∈ all := by
  induction all generalizing left with
  | nil => cases h
  | cons s rest ih =>
    rw [Alignment.scores] at h
    split at h
    · exact List.mem_cons_of_mem _ (ih h)
    · rcases List.mem_cons.mp h with rfl | h
      · exact List.mem_cons_self
      · exact List.mem_cons_of_mem _ (ih h)

theorem mem_of_mem_aligned {all : List Suggestion} {fragment : String} {s : Suggestion}
    (h : s ∈ aligned all fragment) : s ∈ all := by
  obtain ⟨found, hFound, rfl⟩ := List.mem_map.mp h
  exact mem_of_mem_scores (List.mem_mergeSort.mp hFound)

/-- Completions are suggestions, but for the expression. -/
theorem exists_of_mem_forFragment {settings : SuggestionSettings} {all : List Suggestion}
    {fragment : List Char} {s : Suggestion} (h : s ∈ forFragment settings all fragment) :
    ∃ generated ∈ all, s = { generated with expression := s.expression } := by
  unfold forFragment at h
  split at h
  · unfold childrenAfterPoint at h
    split at h
    · obtain ⟨generated, hChild, rfl⟩ := List.mem_map.mp h
      exact ⟨generated, List.mem_of_mem_filter hChild, rfl⟩
    · split at h
      · cases h
      · split at h
        · exact ⟨s, List.mem_of_mem_filter h, rfl⟩
        · exact ⟨s, List.mem_of_mem_filter h, rfl⟩
  · dsimp only at h
    split at h
    · split at h
      · exact ⟨s, mem_of_mem_aligned h, rfl⟩
      · cases h
    · exact ⟨s, List.mem_of_mem_filter (List.mem_mergeSort.mp h), rfl⟩

/-- What is dropped in front of a call stands in front of its parenthesis. -/
theorem typed_call (function rest : List Char) : ∃ before, (∀ c ∈ before, c ∈ function) ∧
    typed (String.ofList (function ++ '(' :: rest)) = before ++ '(' :: rest := by
  have hStart : Text.trimStart (function ++ '(' :: rest)
      = function.dropWhile Text.isBlank ++ '(' :: rest := by
    have hParen : ('(' :: rest).dropWhile Text.isBlank = '(' :: rest := rfl
    rw [Text.trimStart, List.dropWhile_append, hParen]
    split
    · rename_i hNil
      rw [List.isEmpty_iff.mp hNil, List.nil_append]
    · rfl
  have hMem : ∀ c ∈ function.dropWhile Text.isBlank, c ∈ function := fun c hc =>
    (List.dropWhile_suffix _).subset hc
  unfold typed
  dsimp only
  rw [String.toList_ofList, hStart]
  cases hAfter :
      Text.afterStart? ['$', '\x7b'] (function.dropWhile Text.isBlank ++ '(' :: rest) with
  | none => exact ⟨_, hMem, rfl⟩
  | some more =>
    have hText := Text.afterStart?_eq_some_iff.mp hAfter
    -- The opening of a placeholder has no parenthesis.
    rcases hFunction : function.dropWhile Text.isBlank with _ | ⟨c, _ | ⟨d, before⟩⟩
    · rw [hFunction] at hText
      cases hText
    · rw [hFunction] at hText
      cases hText
    · rw [hFunction] at hText hMem
      cases hText
      exact ⟨before, fun e he => hMem e (by simp [he]), rfl⟩

theorem complete_openCall (settings : SuggestionSettings) (all : List Suggestion)
    {function fragment : List Char} {arguments : List (List Char)}
    (hFunction : ∀ c ∈ function, ¬ (c = '\'' ∨ c = '"'))
    (hArguments : ∀ a ∈ arguments, IsExpression a ∧ PlainlyQuoted a)
    (hFragment : ∀ c ∈ fragment, Filler c) :
    complete settings all (String.ofList (openCall function arguments fragment))
      = settings.cut (if Text.trim fragment = [] then all.filter fun s => !s.isFunction
          else forFragment settings (all.filter fun s => !s.isFunction) (Text.trim fragment)) := by
  obtain ⟨before, hBefore, hTyped⟩ :=
    typed_call function (arguments.flatMap (· ++ [',']) ++ fragment)
  have hArgument : openArgument? (openCall before arguments fragment)
      = some (Text.trim fragment) :=
    openArgument?_openCall (fun c hc => hFunction c (hBefore c hc)) hArguments hFragment
  unfold complete
  dsimp only
  rw [openCall, hTyped]
  rw [openCall] at hArgument
  rw [hArgument]
  rfl

/-- A fragment that opens neither a call nor a placeholder is completed as it is. -/
theorem complete_fragment (settings : SuggestionSettings) (all : List Suggestion)
    {fragment : List Char} (hFragment : ∀ c ∈ fragment, Filler c)
    (hBare : ¬ ['$', '\x7b'] <+: Text.trimStart fragment) :
    complete settings all (String.ofList fragment)
      = settings.cut (forFragment settings all (Text.trim fragment)) := by
  have hTyped : typed (String.ofList fragment) = Text.trimStart fragment := by
    unfold typed
    dsimp only
    rw [String.toList_ofList]
    cases hAfter : Text.afterStart? ['$', '\x7b'] (Text.trimStart fragment) with
    | none => rfl
    | some more => exact absurd ⟨more, (Text.afterStart?_eq_some_iff.mp hAfter).symm⟩ hBare
  have hClosed : openArgument? (typed (String.ofList fragment)) = none := by
    rw [hTyped]
    refine openArgument?_of_not_mem fun hCall => ?_
    exact (hFragment '(' ((List.dropWhile_suffix _).subset hCall)).opening rfl
  rw [complete_closed hClosed, hTyped, Text.trim, Text.trim, Text.trimStart, Text.trimStart,
    List.dropWhile_idempotent]

/-! ## The statement -/

/-- Whatever complete arguments stand in front of it, the argument being typed is found. -/
def CompletesEveryArgument : Prop :=
  ∀ (function : String) (arguments : List (List Char)) (fragment : List Char), IsWord function →
    (∀ a ∈ arguments, IsExpression a) → (∀ c ∈ fragment, Filler c) →
      openArgument? (openCall function.toList arguments fragment) = some (Text.trim fragment)

theorem isExpression_literal {c : Char} {rest : List Char} {s : String}
    (hBlank : Text.isBlank c = false) (hNext : next? c rest = some (.text s, [])) :
    IsExpression (c :: rest) :=
  ⟨[.text s], .literal (.text s), .token hBlank hNext .nil,
    .unconditional (.single (.uncompared (.text s)))⟩

/-- An escaped quote ends a string literal for the scan, and the next one opens another. -/
theorem not_completesEveryArgument :
    openArgument? "f('it\\'s',us".toList = some "'it\\'s',us".toList ∧
      ¬ CompletesEveryArgument := by
  have hFound : openArgument? "f('it\\'s',us".toList = some "'it\\'s',us".toList := by
    decide +kernel
  refine ⟨hFound, fun h => ?_⟩
  have hLiteral : IsExpression "'it\\'s'".toList :=
    isExpression_literal (c := '\'') (s := "it's") (by decide) (by decide +kernel)
  have hCall := h "f" ["'it\\'s'".toList] "us".toList (by decide +kernel)
    (List.forall_mem_singleton.mpr hLiteral) (List.all_iff_forall_prop.mp (by decide +kernel))
  rw [show openCall "f".toList ["'it\\'s'".toList] "us".toList = "f('it\\'s',us".toList from rfl,
    hFound] at hCall
  revert hCall
  decide +kernel

/-- Behind complete arguments whose string literals do not hold their own quotes, the argument being
typed is completed by itself, with variables only. -/
theorem completes_argument {settings : SuggestionSettings} {all : List Suggestion}
    {function fragment : List Char} {arguments : List (List Char)}
    (hFunction : ∀ c ∈ function, ¬ (c = '\'' ∨ c = '"'))
    (hArguments : ∀ a ∈ arguments, IsExpression a ∧ PlainlyQuoted a)
    (hFragment : ∀ c ∈ fragment, Filler c) :
    let text := openCall function arguments fragment
    let named := all.filter fun s => !s.isFunction
    let found := complete settings all (String.ofList text)
    openArgument? text = some (Text.trim fragment) ∧
      (Text.trim fragment = [] → found = settings.cut named) ∧
      (Text.trim fragment ≠ [] →
        found = settings.cut (forFragment settings named (Text.trim fragment))) ∧
      (Text.trim fragment ≠ [] → ¬ ['$', '\x7b'] <+: Text.trimStart fragment →
        found = complete settings named (String.ofList fragment)) ∧
      ∀ s ∈ found, s.isFunction = false := by
  intro text named found
  have hComplete : found = settings.cut (if Text.trim fragment = [] then named
      else forFragment settings named (Text.trim fragment)) :=
    complete_openCall settings all hFunction hArguments hFragment
  refine ⟨openArgument?_openCall hFunction hArguments hFragment, fun hNil => ?_, fun hSome => ?_,
    fun hSome hBare => ?_, fun s hs => ?_⟩
  · rw [hComplete, if_pos hNil]
  · rw [hComplete, if_neg hSome]
  · rw [hComplete, if_neg hSome, complete_fragment settings named hFragment hBare]
  · have hVariables : ∀ generated ∈ named, generated.isFunction = false := fun generated hMem => by
      simpa using (List.mem_filter.mp hMem).2
    rw [hComplete] at hs
    have hFound := settings.mem_of_mem_cut hs
    split at hFound
    · exact hVariables s hFound
    · obtain ⟨generated, hMem, hSame⟩ := exists_of_mem_forFragment hFound
      rw [hSame]
      exact hVariables generated hMem

/-- A call with a quoted parenthesis and comma, and a literal with the other quote behind a
backslash. -/
theorem completes_argument_quoted :
    let call := ['g', '(', '\'', ')', ',', '\'', ')']
    let literal := ['"', 's', '\\', '\'', '(', '"']
    let user := ofValue {} "user" false .null
    let users := ofFunction "users" (Registry.undocumented "users" fun _ => .ok .null)
    let text := openCall "concat".toList [call, literal] " us".toList
    String.ofList text = "concat(g('),'),\"s\\'(\", us" ∧
      (∀ a ∈ [call, literal], IsExpression a ∧ PlainlyQuoted a) ∧
      openArgument? text = some "us".toList ∧
      complete {} [users, user] (String.ofList text) = complete {} [user] " us" ∧
      ∀ s ∈ complete {} [users, user] (String.ofList text), s.isFunction = false := by
  intro call literal user users text
  have hCall : IsExpression call := by
    refine ⟨[.name "g", .leftParen, .text "),", .rightParen], .call "g" [.literal (.text "),")],
      ?_, .unconditional (.single (.uncompared (.call (by decide) (.lastArgument
        (.unconditional (.single (.uncompared (.text _))))))))⟩
    exact .token (by decide) rfl (.token (by decide) rfl (.token (by decide) rfl
      (.token (by decide) rfl .nil)))
  have hCallQuoted : PlainlyQuoted call := by
    refine .token (t := .name "g") (by decide) rfl nofun (.token (t := .leftParen) (by decide) rfl
      nofun (.token (t := .text "),") (by decide) rfl ?_ (.token (t := .rightParen) (by decide) rfl
        nofun .nil)))
    rintro _ ⟨⟩
    decide
  have hLiteral : IsExpression literal :=
    isExpression_literal (s := "s'(") (by decide) rfl
  have hLiteralQuoted : PlainlyQuoted literal := by
    refine .token (t := .text "s'(") (by decide) rfl ?_ .nil
    rintro _ ⟨⟩
    decide
  have hArguments : ∀ a ∈ [call, literal], IsExpression a ∧ PlainlyQuoted a :=
    List.forall_mem_cons.mpr ⟨⟨hCall, hCallQuoted⟩,
      List.forall_mem_singleton.mpr ⟨hLiteral, hLiteralQuoted⟩⟩
  obtain ⟨hFound, -, -, hSame, hKind⟩ := @completes_argument {} [users, user] "concat".toList
    " us".toList [call, literal] (List.all_iff_forall_prop.mp (by decide +kernel)) hArguments
    (List.all_iff_forall_prop.mp (by decide +kernel))
  exact ⟨by decide +kernel, hArguments, hFound, hSame (by decide +kernel) (by decide +kernel),
    hKind⟩

end Suggestion

end TextTemplate
