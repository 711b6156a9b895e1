import TextTemplate.Proofs.Lexer.Scans
import TextTemplate.Proofs.Number.Reading
import TextTemplate.Template.Printer

/-!
# Spelled tokens are read back

The text that the printer writes for a token is read as that token, whatever follows it, if what
follows cannot be part of it.

* `Scans.word`, `Scans.text`, `Scans.numeral`: the statement for words, string literals and
  numerals.
* `exists_number`: what the lexer takes for a numeral stands for a number.
-/

namespace TextTemplate.Lexer

/-- The rest does not go on with characters of some kind. -/
def Ends (p : Char → Bool) (rest : List Char) : Prop := ∀ c after, rest = c :: after → p c = false

theorem Ends.nil (p : Char → Bool) : Ends p [] := by
  intro c after h
  cases h

theorem Ends.cons {p : Char → Bool} {c : Char} (h : p c = false) (rest : List Char) :
    Ends p (c :: rest) := by
  intro d after hEq
  cases hEq
  exact h

theorem takeWhile_append_ends {p : Char → Bool} {text rest : List Char}
    (hText : ∀ c ∈ text, p c = true) (hRest : Ends p rest) :
    (text ++ rest).takeWhile p = text ∧ (text ++ rest).dropWhile p = rest := by
  have hTake : rest.takeWhile p = [] ∧ rest.dropWhile p = rest := by
    cases rest with
    | nil => exact ⟨rfl, rfl⟩
    | cons c after =>
      have hc := hRest c after rfl
      exact ⟨List.takeWhile_cons_of_neg (by simp [hc]), List.dropWhile_cons_of_neg (by simp [hc])⟩
  rw [List.takeWhile_append_of_pos hText, List.dropWhile_append_of_pos hText, hTake.1, hTake.2,
    List.append_nil]
  exact ⟨rfl, rfl⟩

/-! ## Words -/

theorem next?_of_startsWord {c : Char} (h : StartsWord c) (rest : List Char) :
    next? c rest = some (wordToken (String.ofList (c :: rest.takeWhile isNamePart)),
      rest.dropWhile isNamePart) := by
  unfold next?
  rw [h.single, h.operator]
  dsimp only
  rw [if_neg h.quote, if_neg (by simp [h.digit]), if_pos h.start]

theorem Scans.word {word : String} {rest : List Char} {us : List Token} (hWord : IsWord word)
    (hRest : Ends isNamePart rest) (h : Scans rest us) :
    Scans (word.toList ++ rest) (wordToken word :: us) := by
  obtain ⟨c, more, hChars, hStart, hMore⟩ := hWord.exists_cons
  obtain ⟨hTake, hDrop⟩ := takeWhile_append_ends hMore hRest
  have hNext : next? c (more ++ rest) = some (wordToken word, rest) := by
    rw [next?_of_startsWord hStart, hTake, hDrop, ← hChars, String.ofList_toList]
  rw [hChars]
  exact .token hStart.blank hNext h

/-! ## String literals -/

theorem stringBody?_literalChar (c : Char) (text : List Char) :
    stringBody? '\'' (Part.literalChar c ++ text)
      = (stringBody? '\'' text).map fun (body, rest) => (c :: body, rest) := by
  unfold Part.literalChar
  split
  · rfl
  · rfl
  · rfl
  · rfl
  · rename_i hQuote hBackslash _ _
    have hChar : ¬ c = '\'' := fun he => hQuote (by rw [he])
    have hKept : ¬ c = '\\' := fun he => hBackslash (by rw [he])
    rw [List.singleton_append, stringBody?.eq_def]
    split
    · rename_i hNil
      cases hNil
    · rename_i hCons
      exact absurd (List.cons.inj hCons).1 hKept
    · rename_i hCons
      exact absurd (List.cons.inj hCons).1 hKept
    · rename_i hCons
      obtain ⟨rfl, rfl⟩ := List.cons.inj hCons
      rw [if_neg hChar]

theorem stringBody?_literal (s rest : List Char) :
    stringBody? '\'' (s.flatMap Part.literalChar ++ '\'' :: rest) = some (s, rest) := by
  induction s with
  | nil => rfl
  | cons c s ih =>
    rw [List.flatMap_cons, List.append_assoc, stringBody?_literalChar, ih]
    rfl

theorem next?_of_quote {c : Char} {rest body after : List Char} (hQuote : c = '\'' ∨ c = '"')
    (h : stringBody? c rest = some (body, after)) :
    next? c rest = some (.text (String.ofList body), after) := by
  have hStart : single? c = none ∧ operator? c = none := by
    rcases hQuote with rfl | rfl <;> exact ⟨rfl, rfl⟩
  unfold next?
  rw [hStart.1, hStart.2]
  dsimp only
  rw [if_pos hQuote, h, Option.map_some]

theorem Scans.text {rest : List Char} {us : List Token} (s : String) (h : Scans rest us) :
    Scans (Part.literalSource (.text s) ++ rest) (.text s :: us) := by
  have hNext := next?_of_quote (.inl rfl) (stringBody?_literal s.toList rest)
  rw [String.ofList_toList] at hNext
  rw [Part.literalSource, List.cons_append, List.cons_append, List.append_assoc]
  exact .token rfl hNext h

/-! ## Numerals -/

theorem digit_starts {c : Char} (h : c.isDigit = true) :
    Text.isBlank c = false ∧ single? c = none ∧ operator? c = none ∧ ¬ (c = '\'' ∨ c = '"') := by
  refine ⟨?_, ?_, ?_, ?_⟩
  · simp only [Char.isDigit, ge_iff_le, Bool.and_eq_true, decide_eq_true_eq, UInt32.le_iff_toNat_le]
      at h
    have hLow : 48 ≤ c.toNat := h.1
    have hHigh : c.toNat ≤ 57 := h.2
    simp only [Text.isBlank, Bool.or_eq_false_iff, Bool.and_eq_false_imp, decide_eq_true_eq,
      decide_eq_false_iff_not, beq_eq_false_iff_ne]
    omega
  · unfold single?
    split <;> first | rfl | cases h
  · unfold operator?
    split <;> first | rfl | cases h
  · rintro (rfl | rfl) <;> cases h

/-- The rest goes on neither with digits nor with a point. -/
def EndsNumeral (rest : List Char) : Prop := Ends Char.isDigit rest ∧ Ends (· == '.') rest

theorem numeral_append {whole fraction rest : List Char} (hWhole : ∀ c ∈ whole, c.isDigit = true)
    (hFraction : ∀ c ∈ fraction, c.isDigit = true) (hRest : EndsNumeral rest) :
    numeral (Numeral.written whole fraction ++ rest) = (⟨false, whole, fraction, 0⟩, rest) := by
  cases fraction with
  | nil =>
    obtain ⟨hTake, hDrop⟩ := takeWhile_append_ends hWhole hRest.1
    rw [Numeral.written, if_pos rfl, List.append_nil, numeral, hTake, hDrop]
    split
    · rename_i d after
      cases hRest.2 '.' (d :: after) rfl
    · rfl
  | cons d fraction =>
    have hPoint : Ends Char.isDigit ('.' :: d :: fraction ++ rest) := Ends.cons rfl _
    obtain ⟨hTake, hDrop⟩ := takeWhile_append_ends hWhole hPoint
    obtain ⟨hTakeFraction, hDropFraction⟩ := takeWhile_append_ends hFraction hRest.1
    have hDigit := hFraction d List.mem_cons_self
    rw [Numeral.written, if_neg (by simp), List.append_assoc, numeral, hTake, hDrop]
    rw [List.cons_append] at hTakeFraction hDropFraction
    simp only [List.cons_append, hDigit, if_true, hTakeFraction, hDropFraction]

/-- What is read as a numeral is the numeral written out. -/
theorem exists_written (text : List Char) : ∃ whole fraction after,
    numeral text = (⟨false, whole, fraction, 0⟩, after)
      ∧ text = Numeral.written whole fraction ++ after
      ∧ whole = text.takeWhile Char.isDigit
      ∧ (∀ c ∈ whole, c.isDigit = true) ∧ ∀ c ∈ fraction, c.isDigit = true := by
  have hText : text = text.takeWhile Char.isDigit ++ text.dropWhile Char.isDigit :=
    List.takeWhile_append_dropWhile.symm
  have hNoFraction : text = Numeral.written (text.takeWhile Char.isDigit) []
      ++ text.dropWhile Char.isDigit := by
    rw [Numeral.written, if_pos rfl, List.append_nil]
    exact hText
  unfold numeral
  dsimp only
  split
  · rename_i d after hPoint
    split
    · rename_i hDigit
      refine ⟨_, _, _, rfl, ?_, rfl, all_of_mem_takeWhile, all_of_mem_takeWhile⟩
      have hSome : (d :: after).takeWhile Char.isDigit ≠ [] := by
        rw [List.takeWhile_cons_of_pos hDigit]
        simp
      rw [Numeral.written, if_neg hSome, List.append_assoc, List.cons_append,
        List.takeWhile_append_dropWhile, ← hPoint]
      exact hText
    · exact ⟨_, _, _, rfl, hNoFraction, rfl, all_of_mem_takeWhile, by simp⟩
  · exact ⟨_, _, _, rfl, hNoFraction, rfl, all_of_mem_takeWhile, by simp⟩

/-- Digits, and further ones after a point, are the text of a number. -/
theorem ofText?_written {whole fraction : List Char} (hSome : whole ≠ [])
    (hWhole : ∀ c ∈ whole, c.isDigit = true) (hFraction : ∀ c ∈ fraction, c.isDigit = true) :
    Numeral.ofText? (Numeral.written whole fraction) = some ⟨false, whole, fraction, 0⟩ := by
  have hSign : Numeral.sign (Numeral.written whole fraction)
      = (false, Numeral.written whole fraction) := by
    obtain ⟨c, more, rfl⟩ := List.exists_cons_of_ne_nil hSome
    have hDigit := hWhole c List.mem_cons_self
    rw [Numeral.written, List.cons_append, Numeral.sign.eq_def]
    split
    · rename_i hCons
      rw [(List.cons.inj hCons).1] at hDigit
      cases hDigit
    · rename_i hCons
      rw [(List.cons.inj hCons).1] at hDigit
      cases hDigit
    · rfl
  have hPoint : Ends Char.isDigit (if fraction = [] then [] else '.' :: fraction) := by
    split
    · exact Ends.nil _
    · exact Ends.cons rfl _
  obtain ⟨hTake, hDrop⟩ := takeWhile_append_ends hWhole hPoint
  have hSplit : Numeral.splitFraction (if fraction = [] then [] else '.' :: fraction)
      = (fraction, []) := by
    cases fraction with
    | nil => rfl
    | cons d fraction =>
      obtain ⟨hAll, hRest⟩ := takeWhile_append_ends hFraction (Ends.nil Char.isDigit)
      rw [List.append_nil] at hAll hRest
      rw [if_neg (by simp), Numeral.splitFraction, hAll, hRest]
  rw [Numeral.ofText?, hSign]
  dsimp only
  rw [Numeral.written, hTake, hDrop, hSplit]
  dsimp only
  rw [if_neg fun hNone => hSome hNone.1]
  rfl

theorem next?_of_isDigit {c : Char} (rest : List Char) (h : c.isDigit = true) :
    next? c rest
      = some (.number (Lexer.numeral (c :: rest)).1.value, (Lexer.numeral (c :: rest)).2) := by
  obtain ⟨-, hSingle, hOperator, hQuote⟩ := digit_starts h
  unfold next?
  rw [hSingle, hOperator]
  dsimp only
  rw [if_neg hQuote, if_pos h]

/-- A digit starts a numeral that stands for a number, however the text goes on. -/
theorem exists_number {c : Char} (rest : List Char) (h : c.isDigit = true) :
    ∃ used n after, c :: rest = used ++ after ∧ Numeral.ofText? used = some n
      ∧ next? c rest = some (.number n.value, after) := by
  obtain ⟨whole, fraction, after, hNumeral, hText, hTake, hWhole, hFraction⟩ :=
    exists_written (c :: rest)
  have hSome : whole ≠ [] := by
    rw [hTake, List.takeWhile_cons_of_pos h]
    simp
  refine ⟨_, _, after, hText, ofText?_written hSome hWhole hFraction, ?_⟩
  rw [next?_of_isDigit rest h, hNumeral]

theorem Scans.numeral {whole fraction rest : List Char} {us : List Token} (hSome : whole ≠ [])
    (hWhole : ∀ c ∈ whole, c.isDigit = true) (hFraction : ∀ c ∈ fraction, c.isDigit = true)
    (hRest : EndsNumeral rest) (h : Scans rest us) :
    Scans (Numeral.written whole fraction ++ rest)
      (.number (Numeral.value ⟨false, whole, fraction, 0⟩) :: us) := by
  have hNumeral := numeral_append hWhole hFraction hRest
  obtain ⟨c, more, rfl⟩ := List.exists_cons_of_ne_nil hSome
  have hDigit := hWhole c List.mem_cons_self
  rw [Numeral.written, List.cons_append, List.cons_append] at hNumeral ⊢
  refine .token (digit_starts hDigit).1 ?_ h
  rw [next?_of_isDigit _ hDigit, hNumeral]

end TextTemplate.Lexer
