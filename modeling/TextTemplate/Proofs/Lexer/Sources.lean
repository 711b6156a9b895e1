import TextTemplate.Proofs.Lexer.Names

/-!
# How tokens are written

Every token that the lexer gives stands in the text as one of the ways to write it, and no text is a
way to write two tokens. The lexer takes the longest text that is a way to write a token.

* `Quoted`: what stands between the quotes of a string literal, and the text that it stands for.
* `Writes`: the ways to write a token, said without the lexer.
* `exists_writes_of_next?`: what the lexer takes for a token is a way to write it.
* `Writes.taken`: what is a way to write a token is taken for it, or is part of a longer token.
* `longest_of_next?`: the lexer takes the longest one.
-/

namespace TextTemplate.Lexer

/-! ## String literals -/

/-- The character that a backslash in front of this one stands for. -/
def unescaped (c : Char) : Char := if c = 'n' then '\n' else if c = 't' then '\t' else c

/-- What stands between the quotes of a string literal, and the text that it stands for. -/
inductive Quoted (quote : Char) : List Char → List Char → Prop
  | nil : Quoted quote [] []
  | escape {c : Char} {source body : List Char} :
      Quoted quote source body → Quoted quote ('\\' :: c :: source) (unescaped c :: body)
  | plain {c : Char} {source body : List Char} :
      c ≠ quote → c ≠ '\\' → Quoted quote source body → Quoted quote (c :: source) (c :: body)

/-- A character of a string literal that starts no escape is no backslash. -/
theorem ne_backslash {c : Char} {rest : List Char} (hAlone : c = '\\' → rest = [] → False)
    (hFollowed : ∀ d more, c = '\\' → rest = d :: more → False) : c ≠ '\\' := by
  intro hBackslash
  cases rest with
  | nil => exact hAlone hBackslash rfl
  | cons d more => exact hFollowed d more hBackslash rfl

theorem exists_quoted {quote : Char} {text body rest : List Char}
    (h : stringBody? quote text = some (body, rest)) :
    ∃ source, text = source ++ quote :: rest ∧ Quoted quote source body := by
  fun_induction stringBody? quote text generalizing body with
  | case1 | case2 => cases h
  | case3 c rest' =>
    rename_i ih
    obtain ⟨⟨inner, after⟩, hInner, hEq⟩ := Option.map_eq_some_iff.mp h
    cases hEq
    obtain ⟨source, rfl, hSource⟩ := ih hInner
    exact ⟨'\\' :: c :: source, rfl, .escape hSource⟩
  | case4 =>
    cases h
    exact ⟨[], rfl, .nil⟩
  | case5 c rest' hAlone hFollowed hQuote ih =>
    obtain ⟨⟨inner, after⟩, hInner, hEq⟩ := Option.map_eq_some_iff.mp h
    cases hEq
    obtain ⟨source, rfl, hSource⟩ := ih hInner
    exact ⟨c :: source, rfl, .plain hQuote (ne_backslash hAlone hFollowed) hSource⟩

theorem quote_ne_backslash {quote : Char} (h : quote = '\'' ∨ quote = '"') : quote ≠ '\\' := by
  rcases h with rfl | rfl <;> decide

theorem Quoted.stringBody?_append {quote : Char} {source body : List Char}
    (h : Quoted quote source body) (hQuote : quote ≠ '\\') (rest : List Char) :
    stringBody? quote (source ++ quote :: rest) = some (body, rest) := by
  induction h with
  | nil =>
    rw [List.nil_append, stringBody?.eq_4 _ _ _ (fun h _ => hQuote h) fun _ _ h _ => hQuote h,
      if_pos rfl]
  | @escape c source body _ ih =>
    rw [List.cons_append, List.cons_append, stringBody?, ih]
    rfl
  | @plain c source body hNe hKept _ ih =>
    rw [List.cons_append, stringBody?.eq_4 _ _ _ (fun h _ => hKept h) fun _ _ h _ => hKept h,
      if_neg hNe, ih]
    rfl

/-! ## Ways to write a token -/

/-- The text of a token that is always written in the same way. -/
def symbol? : Token → Option (List Char)
  | .minus => some ['-']
  | .eq => some ['=', '=']
  | .ne => some ['!', '=']
  | .lt => some ['<']
  | .le => some ['<', '=']
  | .gt => some ['>']
  | .ge => some ['>', '=']
  | .question => some ['?']
  | .colon => some [':']
  | .coalesce => some ['?', '?']
  | .dot => some ['.']
  | .comma => some [',']
  | .leftParen => some ['(']
  | .rightParen => some [')']
  | .leftBracket => some ['[']
  | .rightBracket => some [']']
  | _ => none

/-- The character neither starts a word, a numeral or a string literal nor is a symbol. -/
structure Stray (c : Char) : Prop where
  blank : Text.isBlank c = false
  start : isNameStart c = false
  digit : c.isDigit = false
  quote : ¬ (c = '\'' ∨ c = '"')
  symbol (t : Token) : symbol? t ≠ some [c]

theorem digit_or_point {whole fraction : List Char} (hWhole : ∀ d ∈ whole, d.isDigit = true)
    (hFraction : ∀ d ∈ fraction, d.isDigit = true) {c : Char}
    (h : c ∈ Numeral.written whole fraction) : c.isDigit = true ∨ c = '.' := by
  rcases List.mem_append.mp h with hMem | hMem
  · exact .inl (hWhole c hMem)
  · split at hMem
    · cases hMem
    · rcases List.mem_cons.mp hMem with rfl | hMem
      · exact .inr rfl
      · exact .inl (hFraction c hMem)

/-- The text is a way to write the token. -/
inductive Writes : List Char → Token → Prop
  | word {word : String} : IsName word → Writes word.toList (wordToken word)
  | numeral {whole fraction : List Char} :
      whole ≠ [] → (∀ c ∈ whole, c.isDigit = true) → (∀ c ∈ fraction, c.isDigit = true) →
      Writes (Numeral.written whole fraction)
        (.number (Numeral.value ⟨false, whole, fraction, 0⟩))
  | literal {quote : Char} {source body : List Char} :
      quote = '\'' ∨ quote = '"' → Quoted quote source body →
      Writes (quote :: (source ++ [quote])) (.text (String.ofList body))
  | symbol {source : List Char} {t : Token} : symbol? t = some source → Writes source t
  | stray {c : Char} : Stray c → Writes [c] (.unknown c)

/-! ## What the lexer takes -/

theorem symbol?_of_single {c : Char} {t : Token} (h : single? c = some t) :
    symbol? t = some [c] := by
  unfold single? at h
  split at h <;> first | (cases h; rfl) | cases h

theorem single_of_symbol {c : Char} {t : Token} (h : symbol? t = some [c]) :
    single? c = some t ∨ ∃ second both, operator? c = some (second, both, t) := by
  cases t <;> cases h <;>
    first
    | exact .inl rfl
    | exact .inr ⟨_, _, rfl⟩

theorem symbol?_of_operator {c second : Char} {both alone : Token}
    (h : operator? c = some (second, both, alone)) :
    symbol? both = some [c, second] ∧ (symbol? alone = some [c] ∨ alone = .unknown c ∧ Stray c) := by
  have hStray : ∀ c ∈ ['=', '!'], Stray c := by
    intro c hc
    simp only [List.mem_cons, List.not_mem_nil, or_false] at hc
    rcases hc with rfl | rfl <;>
      exact ⟨by decide, by decide, by decide, by decide, fun t => by cases t <;> simp [symbol?]⟩
  unfold operator? at h
  split at h <;> cases h
  · exact ⟨rfl, .inl rfl⟩
  · exact ⟨rfl, .inr ⟨rfl, hStray _ (by simp)⟩⟩
  · exact ⟨rfl, .inr ⟨rfl, hStray _ (by simp)⟩⟩
  · exact ⟨rfl, .inl rfl⟩
  · exact ⟨rfl, .inl rfl⟩

/-- What the lexer takes for a token is a way to write it. -/
theorem exists_writes_of_next? {c : Char} {rest after : List Char} {t : Token}
    (hBlank : Text.isBlank c = false) (h : next? c rest = some (t, after)) :
    ∃ source, c :: rest = source ++ after ∧ Writes source t := by
  have hNext := h
  unfold next? at h
  split at h
  · rename_i hSingle
    cases h
    exact ⟨[c], rfl, .symbol (symbol?_of_single hSingle)⟩
  · rename_i hSingle
    split at h
    · rename_i second both alone hOperator
      obtain ⟨hBoth, hFirst⟩ := symbol?_of_operator hOperator
      have hAlone : Writes [c] alone := by
        rcases hFirst with hSymbol | ⟨rfl, hStray⟩
        · exact .symbol hSymbol
        · exact .stray hStray
      split at h
      · split at h
        · rename_i hSecond
          cases h
          exact ⟨[c, second], by rw [hSecond]; rfl, .symbol hBoth⟩
        · cases h
          exact ⟨[c], rfl, hAlone⟩
      · cases h
        exact ⟨[c], rfl, hAlone⟩
    · rename_i hOperator
      split at h
      · rename_i hQuote
        obtain ⟨⟨body, rest'⟩, hBody, hEq⟩ := Option.map_eq_some_iff.mp h
        cases hEq
        obtain ⟨source, rfl, hSource⟩ := exists_quoted hBody
        exact ⟨c :: (source ++ [c]), by simp, .literal hQuote hSource⟩
      · rename_i hQuote
        split at h
        · rename_i hDigit
          obtain ⟨whole, fraction, after, hNumeral, hText, hWhole, hDigits, hFraction⟩ :=
            exists_written (c :: rest)
          have hSome : whole ≠ [] := by
            rw [hWhole, List.takeWhile_cons_of_pos hDigit]
            exact List.cons_ne_nil _ _
          rw [next?_of_isDigit rest hDigit, hNumeral] at hNext
          cases hNext
          exact ⟨_, hText, .numeral hSome hDigits hFraction⟩
        · rename_i hDigit
          split at h
          · rename_i hStart
            cases h
            have hName : IsName (String.ofList (c :: rest.takeWhile isNamePart)) :=
              ⟨c, _, String.toList_ofList, hStart, all_of_mem_takeWhile⟩
            have hWrites := Writes.word hName
            rw [String.toList_ofList] at hWrites
            exact ⟨_, by rw [List.cons_append, List.takeWhile_append_dropWhile], hWrites⟩
          · rename_i hStart
            cases h
            refine ⟨[c], rfl, .stray ⟨hBlank, by simpa using hStart, by simpa using hDigit, hQuote,
              fun t hSymbol => ?_⟩⟩
            rcases single_of_symbol hSymbol with hOne | ⟨second, both, hTwo⟩
            · rw [hSingle] at hOne
              cases hOne
            · rw [hOperator] at hTwo
              cases hTwo

/-! ## What is taken -/

/-- By itself the text is taken for the token; in front of more text, the lexer takes it and
possibly more. -/
structure Taken (c : Char) (more : List Char) (t : Token) : Prop where
  blank : Text.isBlank c = false
  alone : next? c more = some (t, [])
  further (rest : List Char) : ∃ t' after, next? c (more ++ rest) = some (t', after) ∧ after <:+ rest

theorem exists_next?_of_not_quote {c : Char} (h : ¬ (c = '\'' ∨ c = '"')) (rest : List Char) :
    ∃ t after, next? c rest = some (t, after) ∧ after <:+ rest := by
  cases hNext : next? c rest with
  | none => exact absurd (open_of_next? hNext).1 h
  | some found => exact ⟨found.1, found.2, rfl, next?_suffix hNext⟩

theorem Taken.of_single {c : Char} {t : Token} (hBlank : Text.isBlank c = false)
    (hQuote : ¬ (c = '\'' ∨ c = '"')) (h : next? c [] = some (t, [])) : Taken c [] t :=
  ⟨hBlank, h, exists_next?_of_not_quote hQuote⟩

theorem Taken.of_exact {c : Char} {more : List Char} {t : Token} (hBlank : Text.isBlank c = false)
    (h : ∀ rest, next? c (more ++ rest) = some (t, rest)) : Taken c more t :=
  ⟨hBlank, by simpa using h [], fun rest => ⟨t, rest, h rest, List.suffix_refl rest⟩⟩

theorem taken_word {c : Char} {more : List Char} (hStart : isNameStart c = true)
    (hMore : ∀ d ∈ more, isNamePart d = true) :
    Taken c more (wordToken (String.ofList (c :: more))) := by
  have hWord := startsWord_of_isNameStart hStart
  refine ⟨hWord.blank, ?_, fun rest => ?_⟩
  · obtain ⟨hTake, hDrop⟩ := takeWhile_append_ends hMore (Ends.nil isNamePart)
    rw [List.append_nil] at hTake hDrop
    rw [next?_of_startsWord hWord, hTake, hDrop]
  · rw [next?_of_startsWord hWord, List.dropWhile_append_of_pos hMore]
    exact ⟨_, _, rfl, List.dropWhile_suffix _⟩

/-- A numeral goes on as long as there are digits. -/
theorem numeral_written_suffix {whole fraction : List Char}
    (hWhole : ∀ c ∈ whole, c.isDigit = true) (hFraction : ∀ c ∈ fraction, c.isDigit = true)
    (rest : List Char) : (numeral (Numeral.written whole fraction ++ rest)).2 <:+ rest := by
  cases fraction with
  | nil =>
    have hSuffix := numeral_snd_suffix (whole ++ rest)
    rw [List.dropWhile_append_of_pos hWhole] at hSuffix
    rw [Numeral.written, if_pos rfl, List.append_nil]
    exact hSuffix.trans (List.dropWhile_suffix _)
  | cons d fraction =>
    have hPoint : Ends Char.isDigit ('.' :: d :: fraction ++ rest) := Ends.cons rfl _
    obtain ⟨hTake, hDrop⟩ := takeWhile_append_ends hWhole hPoint
    have hDigit := hFraction d List.mem_cons_self
    rw [Numeral.written, if_neg (by simp), List.append_assoc, numeral, hTake, hDrop]
    simp only [List.cons_append, hDigit, if_true]
    rw [← List.cons_append, List.dropWhile_append_of_pos hFraction]
    exact List.dropWhile_suffix _

theorem taken_numeral {c : Char} {more whole fraction : List Char} (hSome : whole ≠ [])
    (hWhole : ∀ c ∈ whole, c.isDigit = true) (hFraction : ∀ c ∈ fraction, c.isDigit = true)
    (hText : Numeral.written whole fraction = c :: more) :
    Taken c more (.number (Numeral.value ⟨false, whole, fraction, 0⟩)) := by
  have hDigit : c.isDigit = true := by
    obtain ⟨d, digits, rfl⟩ := List.exists_cons_of_ne_nil hSome
    rw [Numeral.written, List.cons_append] at hText
    rw [← (List.cons.inj hText).1]
    exact hWhole d List.mem_cons_self
  refine ⟨(digit_starts hDigit).1, ?_, fun rest => ?_⟩
  · have hAlone := numeral_append hWhole hFraction ⟨Ends.nil _, Ends.nil _⟩
    rw [List.append_nil, hText] at hAlone
    rw [next?_of_isDigit _ hDigit, hAlone]
  · have hSuffix := numeral_written_suffix hWhole hFraction rest
    rw [hText] at hSuffix
    rw [next?_of_isDigit _ hDigit]
    exact ⟨_, _, rfl, hSuffix⟩

theorem taken_literal {quote : Char} {source body : List Char} (hQuote : quote = '\'' ∨ quote = '"')
    (h : Quoted quote source body) :
    Taken quote (source ++ [quote]) (.text (String.ofList body)) := by
  have hBlank : Text.isBlank quote = false := by rcases hQuote with rfl | rfl <;> rfl
  refine .of_exact hBlank fun rest => next?_of_quote hQuote ?_
  rw [List.append_assoc, List.singleton_append, h.stringBody?_append (quote_ne_backslash hQuote)]

theorem taken_symbol {source : List Char} {t : Token} (h : symbol? t = some source) :
    ∃ c more, source = c :: more ∧ Taken c more t := by
  cases t <;> cases h <;>
    first
    | exact ⟨_, _, rfl, .of_single (by decide) (by decide) rfl⟩
    | exact ⟨_, _, rfl, .of_exact (by decide) fun rest => rfl⟩

theorem taken_stray {c : Char} (h : Stray c) : Taken c [] (.unknown c) := by
  refine .of_single h.blank h.quote ?_
  unfold next?
  cases hSingle : single? c with
  | some t => exact absurd (symbol?_of_single hSingle) (h.symbol t)
  | none =>
    cases hOperator : operator? c with
    | none =>
      dsimp only
      rw [if_neg h.quote, if_neg (by simp [h.digit]), if_neg (by simp [h.start])]
    | some found =>
      obtain ⟨second, both, alone⟩ := found
      rcases (symbol?_of_operator hOperator).2 with hSymbol | ⟨rfl, -⟩
      · exact absurd hSymbol (h.symbol alone)
      · rfl

/-- What is a way to write a token is taken for it, or is part of a longer token. -/
theorem Writes.taken {source : List Char} {t : Token} (h : Writes source t) :
    ∃ c more, source = c :: more ∧ Taken c more t := by
  cases h with
  | @word word hName =>
    obtain ⟨c, more, hChars, hStart, hMore⟩ := hName
    have hTaken := taken_word hStart hMore
    rw [← hChars, String.ofList_toList] at hTaken
    exact ⟨c, more, hChars, hTaken⟩
  | @numeral whole fraction hSome hWhole hFraction =>
    have hWritten : Numeral.written whole fraction ≠ [] := by
      rw [Numeral.written]
      exact List.append_ne_nil_of_left_ne_nil hSome _
    obtain ⟨c, more, hText⟩ := List.exists_cons_of_ne_nil hWritten
    exact ⟨c, more, hText, taken_numeral hSome hWhole hFraction hText⟩
  | literal hQuote hQuoted => exact ⟨_, _, rfl, taken_literal hQuote hQuoted⟩
  | symbol hSymbol => exact taken_symbol hSymbol
  | stray hStray => exact ⟨_, _, rfl, taken_stray hStray⟩

/-- No text is a way to write two tokens. -/
theorem Writes.unique {source : List Char} {t t' : Token} (h : Writes source t)
    (h' : Writes source t') : t = t' := by
  obtain ⟨c, more, rfl, hTaken⟩ := h.taken
  obtain ⟨_, _, hSource, hTaken'⟩ := h'.taken
  cases hSource
  cases hTaken.alone.symm.trans hTaken'.alone
  rfl

theorem wordToken_ne_unknown (word : String) (c : Char) : wordToken word ≠ .unknown c := by
  unfold wordToken
  repeat' split
  all_goals simp

/-- A character that makes up no other token is written as it is. -/
theorem Writes.eq_of_unknown {source : List Char} {c : Char} (h : Writes source (.unknown c)) :
    source = [c] := by
  generalize hToken : Token.unknown c = t at h
  cases h with
  | word => exact absurd hToken.symm (wordToken_ne_unknown _ c)
  | numeral | literal => cases hToken
  | symbol hSymbol =>
    subst hToken
    cases hSymbol
  | stray =>
    cases hToken
    rfl

theorem Writes.ne_finish {source : List Char} {t : Token} (h : Writes source t) : t ≠ .finish := by
  obtain ⟨c, more, -, hTaken⟩ := h.taken
  rintro rfl
  exact lexed_of_next? hTaken.blank hTaken.alone

/-- White space stands in string literals only. -/
theorem Writes.text_of_blank {source : List Char} {t : Token} (h : Writes source t) {c : Char}
    (hMem : c ∈ source) (hBlank : Text.isBlank c = true) : ∃ s, t = .text s := by
  cases h with
  | word hName =>
    have hPart := (isWord_iff.mpr hName).isNamePart c hMem
    rw [isNamePart_of_isBlank hBlank] at hPart
    cases hPart
  | numeral _ hWhole hFraction =>
    rcases digit_or_point hWhole hFraction hMem with hDigit | rfl
    · rw [isDigit_of_isBlank hBlank] at hDigit
      cases hDigit
    · cases hBlank
  | literal => exact ⟨_, rfl⟩
  | symbol hSymbol =>
    exfalso
    cases t <;> cases hSymbol <;> simp only [List.mem_cons, List.not_mem_nil, or_false] at hMem <;>
      first
      | (subst hMem; cases hBlank)
      | (rcases hMem with rfl | rfl <;> cases hBlank)
  | stray hStray =>
    obtain rfl := List.mem_singleton.mp hMem
    rw [hStray.blank] at hBlank
    cases hBlank

/-! ## The longest token -/

/-- No longer part of the text is a way to write a token. -/
def Longest (source rest : List Char) : Prop :=
  ∀ used after t, rest = used ++ after → Writes (source ++ used) t → used = []

/-- The lexer takes the longest text that is a way to write a token. -/
theorem longest_of_next? {c : Char} {rest source after : List Char} {t : Token}
    (h : next? c rest = some (t, after)) (hText : c :: rest = source ++ after) :
    Longest source after := by
  intro used later t' hAfter hWrites
  obtain ⟨d, more, hSource, hTaken⟩ := hWrites.taken
  rw [hAfter, ← List.append_assoc, hSource, List.cons_append] at hText
  obtain ⟨rfl, rfl⟩ := List.cons.inj hText
  obtain ⟨t'', after', hNext, hSuffix⟩ := hTaken.further later
  cases h.symm.trans hNext
  have hLength := hSuffix.length_le
  rw [hAfter, List.length_append] at hLength
  exact List.eq_nil_of_length_eq_zero (by omega)

/-- Of two ways to write tokens at the start of a text, both as long as possible, there is one. -/
theorem Writes.eq_of_longest {source source' rest rest' : List Char} {t t' : Token}
    (h : Writes source t) (h' : Writes source' t') (hLongest : Longest source rest)
    (hLongest' : Longest source' rest') (hText : source ++ rest = source' ++ rest') :
    source = source' ∧ rest = rest' ∧ t = t' := by
  have hSource : source = source' ∧ rest = rest' := by
    rcases List.append_eq_append_iff.mp hText with ⟨used, rfl, rfl⟩ | ⟨used, rfl, rfl⟩
    · obtain rfl := hLongest used rest' t' rfl h'
      simp
    · obtain rfl := hLongest' used rest t rfl h
      simp
  obtain ⟨rfl, rfl⟩ := hSource
  exact ⟨rfl, rfl, h.unique h'⟩

end TextTemplate.Lexer
