import TextTemplate.Proofs.Parser.Brackets
import TextTemplate.Template.Lexer

/-!
# Texts as runs of tokens

`Scans` says which tokens a text consists of, without positions and without a bound on steps.

* `next?_suffix`: a token uses up a part of the text in front of what is left.
* `lexed_of_scans`: names are identifiers, and the end mark is no token of a text.
* `scans_of_lexemes`, `lexemes_of_scans`: the lexer finds the tokens that the text consists of.
* `scansTo_of_error`: where the lexer fails, it has got over tokens to a string literal without an
  end.
-/

namespace TextTemplate.Lexer

open TextTemplate.Parser (tokens)

/-- The text consists of the tokens, with white space around them. -/
inductive Scans : List Char → List Token → Prop
  | nil : Scans [] []
  | blank {c : Char} {rest : List Char} {ts : List Token} :
      Text.isBlank c = true → Scans rest ts → Scans (c :: rest) ts
  | token {c : Char} {rest after : List Char} {t : Token} {ts : List Token} :
      Text.isBlank c = false → next? c rest = some (t, after) → Scans after ts →
      Scans (c :: rest) (t :: ts)

/-- The tokens stand in front of what is left of the text, with white space around them. -/
inductive ScansTo (left : List Char) : List Char → List Token → Prop
  | nil : ScansTo left left []
  | blank {c : Char} {rest : List Char} {ts : List Token} :
      Text.isBlank c = true → ScansTo left rest ts → ScansTo left (c :: rest) ts
  | token {c : Char} {rest after : List Char} {t : Token} {ts : List Token} :
      Text.isBlank c = false → next? c rest = some (t, after) → ScansTo left after ts →
      ScansTo left (c :: rest) (t :: ts)

theorem Scans.scansTo {text : List Char} {ts : List Token} (h : Scans text ts) :
    ScansTo [] text ts := by
  induction h with
  | nil => exact .nil
  | blank hBlank _ ih => exact .blank hBlank ih
  | token hBlank hNext _ ih => exact .token hBlank hNext ih

/-! ## One token -/

theorem stringBody?_suffix {quote : Char} {text body rest : List Char}
    (h : stringBody? quote text = some (body, rest)) : rest <:+ text := by
  fun_induction stringBody? quote text generalizing body with
  | case1 | case2 => cases h
  | case3 =>
    rename_i ih
    obtain ⟨⟨inner, after⟩, hInner, hEq⟩ := Option.map_eq_some_iff.mp h
    cases hEq
    exact ((ih hInner).trans (List.suffix_cons _ _)).trans (List.suffix_cons _ _)
  | case4 =>
    cases h
    exact List.suffix_cons _ _
  | case5 =>
    rename_i ih
    obtain ⟨⟨inner, after⟩, hInner, hEq⟩ := Option.map_eq_some_iff.mp h
    cases hEq
    exact (ih hInner).trans (List.suffix_cons _ _)

theorem numeral_snd_suffix (text : List Char) :
    (numeral text).2 <:+ text.dropWhile Char.isDigit := by
  unfold numeral
  dsimp only
  split
  · rename_i d after hPoint
    rw [hPoint]
    split
    · exact (List.dropWhile_suffix _).trans (List.suffix_cons _ _)
    · exact List.suffix_refl _
  · exact List.suffix_refl _

theorem numeral_suffix {c : Char} {rest : List Char} (hDigit : c.isDigit = true) :
    (numeral (c :: rest)).2 <:+ rest := by
  have hSuffix := numeral_snd_suffix (c :: rest)
  rw [List.dropWhile_cons_of_pos hDigit] at hSuffix
  exact hSuffix.trans (List.dropWhile_suffix _)

/-- A token uses up a part of the text in front of what is left. -/
theorem next?_suffix {c : Char} {rest after : List Char} {t : Token}
    (h : next? c rest = some (t, after)) : after <:+ rest := by
  unfold next? at h
  split at h
  · cases h
    exact List.suffix_refl _
  · split at h
    · split at h
      · split at h
        · cases h
          exact List.suffix_cons _ _
        · cases h
          exact List.suffix_refl _
      · cases h
        exact List.suffix_refl _
    · split at h
      · obtain ⟨⟨body, rest'⟩, hBody, hEq⟩ := Option.map_eq_some_iff.mp h
        cases hEq
        exact stringBody?_suffix hBody
      · split at h
        · rename_i hDigit
          cases h
          exact numeral_suffix hDigit
        · split at h
          · cases h
            exact List.dropWhile_suffix _
          · cases h
            exact List.suffix_refl _

/-- Only a string literal without an end is no token. -/
theorem open_of_next? {c : Char} {rest : List Char} (h : next? c rest = none) :
    (c = '\'' ∨ c = '"') ∧ stringBody? c rest = none := by
  unfold next? at h
  split at h
  · cases h
  · split at h
    · split at h
      · split at h <;> cases h
      · cases h
    · split at h
      · rename_i hQuote
        exact ⟨hQuote, Option.map_eq_none_iff.mp h⟩
      · split at h
        · cases h
        · split at h <;> cases h

/-! ## What a token can be -/

/-- What the lexer finds out about the first character of a word before it reads the word. -/
structure StartsWord (c : Char) : Prop where
  blank : Text.isBlank c = false
  single : single? c = none
  operator : operator? c = none
  quote : ¬ (c = '\'' ∨ c = '"')
  digit : c.isDigit = false
  start : isNameStart c = true

instance (c : Char) : Decidable (StartsWord c) :=
  decidable_of_iff (Text.isBlank c = false ∧ single? c = none ∧ operator? c = none ∧
      ¬ (c = '\'' ∨ c = '"') ∧ c.isDigit = false ∧ isNameStart c = true)
    ⟨fun ⟨hBlank, hSingle, hOperator, hQuote, hDigit, hStart⟩ =>
      ⟨hBlank, hSingle, hOperator, hQuote, hDigit, hStart⟩,
    fun h => ⟨h.blank, h.single, h.operator, h.quote, h.digit, h.start⟩⟩

def IsWordText : List Char → Prop
  | [] => False
  | c :: rest => StartsWord c ∧ ∀ d ∈ rest, isNamePart d = true

instance : (text : List Char) → Decidable (IsWordText text)
  | [] => instDecidableFalse
  | c :: rest =>
    decidable_of_iff (StartsWord c ∧ rest.all isNamePart = true)
      (and_congr_right fun _ => List.all_eq_true)

/-- An identifier, or one of the three words that are no identifiers. -/
def IsWord (word : String) : Prop := IsWordText word.toList

instance (word : String) : Decidable (IsWord word) :=
  inferInstanceAs (Decidable (IsWordText word.toList))

theorem IsWord.exists_cons {word : String} (h : IsWord word) :
    ∃ c rest, word.toList = c :: rest ∧ StartsWord c ∧ ∀ d ∈ rest, isNamePart d = true := by
  unfold IsWord at h
  cases hChars : word.toList with
  | nil =>
    rw [hChars] at h
    exact h.elim
  | cons c rest =>
    rw [hChars] at h
    exact ⟨c, rest, rfl, h⟩

theorem isNamePart_of_isNameStart {c : Char} (h : isNameStart c = true) : isNamePart c = true := by
  simp only [isNameStart, isNamePart, Text.isLetterOrNumeric, Bool.or_eq_true] at h ⊢
  rcases h with (hLetter | hLow) | hDollar
  · exact Or.inl (Or.inl (Or.inl hLetter))
  · exact Or.inl (Or.inr hLow)
  · exact Or.inr hDollar

theorem IsWord.isNamePart {word : String} (h : IsWord word) :
    ∀ c ∈ word.toList, isNamePart c = true := by
  obtain ⟨c, rest, hChars, hStart, hRest⟩ := h.exists_cons
  rw [hChars]
  exact List.forall_mem_cons.mpr ⟨isNamePart_of_isNameStart hStart.start, hRest⟩

/-- A word that is none of the three. -/
structure IsIdentifier (name : String) : Prop where
  word : IsWord name
  name : wordToken name = .name name

instance (name : String) : Decidable (IsIdentifier name) :=
  decidable_of_iff (IsWord name ∧ wordToken name = .name name)
    ⟨fun ⟨hWord, hName⟩ => ⟨hWord, hName⟩, fun h => ⟨h.word, h.name⟩⟩

/-- Tokens that the lexer gives: names are identifiers, and the end mark is none of them. -/
def Lexed : Token → Prop
  | .name s => IsIdentifier s
  | .finish => False
  | _ => True

theorem lexed_of_single {c : Char} {t : Token} (h : single? c = some t) : Lexed t := by
  unfold single? at h
  split at h <;> first | (cases h; trivial) | cases h

theorem lexed_of_operator {c second : Char} {both alone : Token}
    (h : operator? c = some (second, both, alone)) : Lexed both ∧ Lexed alone := by
  unfold operator? at h
  split at h <;> first | (cases h; exact ⟨trivial, trivial⟩) | cases h

theorem lexed_wordToken {word : String} (h : IsWord word) : Lexed (wordToken word) := by
  by_cases hTrue : word = "true"
  · rw [wordToken, if_pos hTrue]
    trivial
  · by_cases hFalse : word = "false"
    · rw [wordToken, if_neg hTrue, if_pos hFalse]
      trivial
    · by_cases hNull : word = "null"
      · rw [wordToken, if_neg hTrue, if_neg hFalse, if_pos hNull]
        trivial
      · have hName : wordToken word = .name word := by
          rw [wordToken, if_neg hTrue, if_neg hFalse, if_neg hNull]
        rw [hName]
        exact ⟨h, hName⟩

theorem all_of_mem_takeWhile {p : Char → Bool} {text : List Char} :
    ∀ c ∈ text.takeWhile p, p c = true := by
  intro c hc
  exact List.all_eq_true.mp List.all_takeWhile c hc

theorem lexed_of_next? {c : Char} {rest after : List Char} {t : Token}
    (hBlank : Text.isBlank c = false) (h : next? c rest = some (t, after)) : Lexed t := by
  unfold next? at h
  split at h
  · rename_i hSingle
    cases h
    exact lexed_of_single hSingle
  · rename_i hSingle
    split at h
    · rename_i hOperator
      obtain ⟨hBoth, hAlone⟩ := lexed_of_operator hOperator
      split at h
      · split at h
        · cases h
          exact hBoth
        · cases h
          exact hAlone
      · cases h
        exact hAlone
    · rename_i hOperator
      split at h
      · obtain ⟨⟨body, rest'⟩, hBody, hEq⟩ := Option.map_eq_some_iff.mp h
        cases hEq
        trivial
      · rename_i hQuote
        split at h
        · cases h
          trivial
        · rename_i hDigit
          split at h
          · rename_i hStart
            cases h
            refine lexed_wordToken ?_
            rw [IsWord, String.toList_ofList]
            refine ⟨?_, ?_⟩
            · exact ⟨hBlank, hSingle, hOperator, hQuote, by simpa using hDigit, hStart⟩
            · exact all_of_mem_takeWhile
          · cases h
            trivial

theorem lexed_of_scans {text : List Char} {ts : List Token} (h : Scans text ts) :
    ∀ t ∈ ts, Lexed t := by
  induction h with
  | nil => simp
  | blank _ _ ih => exact ih
  | token hBlank hNext _ ih =>
    intro t ht
    rcases List.mem_cons.mp ht with rfl | ht
    · exact lexed_of_next? hBlank hNext
    · exact ih t ht

/-! ## The lexer -/

theorem trimStart_cons_blank {c : Char} (rest : List Char) (h : Text.isBlank c = true) :
    Text.trimStart (c :: rest) = Text.trimStart rest := List.dropWhile_cons_of_pos h

theorem trimStart_cons {c : Char} (rest : List Char) (h : Text.isBlank c = false) :
    Text.trimStart (c :: rest) = c :: rest := List.dropWhile_cons_of_neg (by simp [h])

theorem scans_trimStart (text : List Char) {ts : List Token} :
    Scans (Text.trimStart text) ts ↔ Scans text ts := by
  induction text with
  | nil => rfl
  | cons c rest ih =>
    cases hBlank : Text.isBlank c with
    | false => rw [trimStart_cons rest hBlank]
    | true =>
      rw [trimStart_cons_blank rest hBlank, ih]
      constructor
      · exact .blank hBlank
      · intro h
        cases h with
        | blank _ h => exact h
        | token hNot => rw [hBlank] at hNot; cases hNot

/-- After white space is dropped, a text is empty or starts with something else. -/
theorem trimStart_cases (text : List Char) :
    Text.trimStart text = [] ∨
      ∃ c rest, Text.trimStart text = c :: rest ∧ Text.isBlank c = false := by
  induction text with
  | nil => exact Or.inl rfl
  | cons c rest ih =>
    cases hBlank : Text.isBlank c with
    | false => exact Or.inr ⟨c, rest, trimStart_cons rest hBlank, hBlank⟩
    | true =>
      rw [trimStart_cons_blank rest hBlank]
      exact ih

theorem length_trimStart_le (text : List Char) :
    (Text.trimStart text).length ≤ text.length :=
  (List.dropWhile_suffix Text.isBlank).length_le

theorem scans_of_lexemesFrom {fuel position : Nat} {text : List Char} {lexemes : List Lexeme}
    (hFuel : text.length < fuel) (h : lexemesFrom fuel position text = .ok lexemes) :
    ∃ body last, lexemes = body ++ [⟨.finish, last⟩] ∧ Scans text (tokens body) := by
  induction fuel generalizing position text lexemes with
  | zero => omega
  | succ fuel ih =>
    have hLength := length_trimStart_le text
    rw [lexemesFrom] at h
    simp only [← scans_trimStart text]
    rcases trimStart_cases text with hNil | ⟨c, rest, hCons, hBlank⟩
    · rw [hNil] at h ⊢
      cases h
      exact ⟨[], _, rfl, .nil⟩
    · rw [hCons] at h hLength ⊢
      dsimp only at h
      split at h
      · cases h
      · rename_i t after hNext
        have hAfter := (next?_suffix hNext).length_le
        rw [List.length_cons] at hLength
        split at h
        · cases h
        · rename_i more hMore
          cases h
          obtain ⟨body, last, rfl, hScans⟩ := ih (by omega) hMore
          exact ⟨⟨t, _⟩ :: body, last, rfl, .token hBlank hNext hScans⟩

theorem lexemesFrom_of_scans {fuel : Nat} (position : Nat) {text : List Char} {ts : List Token}
    (hFuel : text.length < fuel) (h : Scans text ts) :
    ∃ body last, lexemesFrom fuel position text = .ok (body ++ [⟨.finish, last⟩]) ∧
      tokens body = ts := by
  induction fuel generalizing position text ts with
  | zero => omega
  | succ fuel ih =>
    have hLength := length_trimStart_le text
    rw [← scans_trimStart] at h
    rw [lexemesFrom]
    rcases trimStart_cases text with hNil | ⟨c, rest, hCons, hBlank⟩
    · rw [hNil] at h ⊢
      cases h
      exact ⟨[], _, rfl, rfl⟩
    · rw [hCons] at h hLength ⊢
      cases h with
      | blank hNot =>
        rw [hBlank] at hNot
        cases hNot
      | token _ hNext hScans =>
        have hAfter := (next?_suffix hNext).length_le
        rw [List.length_cons] at hLength
        dsimp only
        rw [hNext]
        dsimp only
        obtain ⟨body, last, hMore, rfl⟩ := ih _ (by omega) hScans
        rw [hMore]
        exact ⟨_ :: body, last, rfl, rfl⟩

theorem ScansTo.suffix {left text : List Char} {ts : List Token} (h : ScansTo left text ts) :
    left <:+ text := by
  induction h with
  | nil => exact List.suffix_refl _
  | blank _ _ ih => exact ih.trans (List.suffix_cons _ _)
  | token _ hNext _ ih => exact (ih.trans (next?_suffix hNext)).trans (List.suffix_cons _ _)

theorem ScansTo.of_trimStart {left : List Char} (text : List Char) {ts : List Token}
    (h : ScansTo left (Text.trimStart text) ts) : ScansTo left text ts := by
  induction text with
  | nil => exact h
  | cons c rest ih =>
    cases hBlank : Text.isBlank c with
    | false => rwa [trimStart_cons rest hBlank] at h
    | true =>
      rw [trimStart_cons_blank rest hBlank] at h
      exact .blank hBlank (ih h)

theorem byteLength_trimStart (text : List Char) : Text.byteLength text
    = Text.byteLength (text.takeWhile Text.isBlank) + Text.byteLength (Text.trimStart text) := by
  rw [← Text.byteLength_append]
  exact congrArg Text.byteLength List.takeWhile_append_dropWhile.symm

/-- The bytes of the white space in front of a text. -/
theorem byteLength_sub_trimStart (text : List Char) :
    Text.byteLength text - Text.byteLength (Text.trimStart text)
      = Text.byteLength (text.takeWhile Text.isBlank) := by
  rw [byteLength_trimStart text]
  omega

/-- The bytes of a token in front of what follows it. -/
theorem byteLength_sub_after (used after : List Char) :
    Text.byteLength (used ++ after) - Text.byteLength after = Text.byteLength used := by
  rw [Text.byteLength_append]
  omega

theorem scansTo_of_lexemesFrom_error {fuel position : Nat} {text : List Char} {f : LocatedFault}
    (hFuel : text.length < fuel) (h : lexemesFrom fuel position text = .error f) :
    ∃ used ts c rest, text = used ++ c :: rest ∧ ScansTo (c :: rest) text ts ∧ next? c rest = none
      ∧ f = ⟨.unclosedText, position + Text.byteLength used⟩ := by
  induction fuel generalizing position text with
  | zero => omega
  | succ fuel ih =>
    have hLength := length_trimStart_le text
    have hText : text = text.takeWhile Text.isBlank ++ Text.trimStart text :=
      List.takeWhile_append_dropWhile.symm
    rw [lexemesFrom] at h
    dsimp only at h
    rw [byteLength_sub_trimStart] at h
    rcases trimStart_cases text with hNil | ⟨c, rest, hCons, hBlank⟩
    · rw [hNil] at h
      cases h
    · rw [hCons] at h hLength hText
      dsimp only at h
      split at h
      · rename_i hNext
        cases h
        exact ⟨_, [], c, rest, hText, .of_trimStart text (hCons ▸ .nil), hNext, rfl⟩
      · rename_i t after hNext
        obtain ⟨piece, rfl⟩ := next?_suffix hNext
        split at h
        · rename_i f' hMore
          cases h
          rw [List.length_cons, List.length_append] at hLength
          obtain ⟨used, ts, d, more, hAfter, hScans, hNone, hFault⟩ := ih (by omega) hMore
          refine ⟨text.takeWhile Text.isBlank ++ (c :: piece) ++ used, t :: ts, d, more, ?_,
            .of_trimStart text (hCons ▸ .token hBlank hNext hScans), hNone, ?_⟩
          · rw [List.append_assoc, List.append_assoc, ← hAfter]
            exact hText
          · rw [hFault, ← List.cons_append, byteLength_sub_after, Text.byteLength_append,
              Text.byteLength_append, Nat.add_assoc, Nat.add_assoc, Nat.add_assoc]
        · cases h

/-- The lexer gives the tokens that the text consists of, and the end mark. -/
theorem scans_of_lexemes {text : List Char} {ls : List Lexeme} (h : lexemes text = .ok ls) :
    ∃ body last, ls = body ++ [⟨.finish, last⟩] ∧ Scans text (tokens body) :=
  scans_of_lexemesFrom (Nat.lt_succ_self _) h

/-- A text that consists of tokens is split into them. -/
theorem lexemes_of_scans {text : List Char} {ts : List Token} (h : Scans text ts) :
    ∃ body last, lexemes text = .ok (body ++ [⟨.finish, last⟩]) ∧ tokens body = ts :=
  lexemesFrom_of_scans 0 (Nat.lt_succ_self _) h

/-- Where the lexer fails, it has got over tokens to a string literal without an end. -/
theorem scansTo_of_error {text : List Char} {f : LocatedFault} (h : lexemes text = .error f) :
    ∃ used ts c rest, text = used ++ c :: rest ∧ ScansTo (c :: rest) text ts ∧ next? c rest = none
      ∧ f = ⟨.unclosedText, Text.byteLength used⟩ := by
  have hFrom := scansTo_of_lexemesFrom_error (Nat.lt_succ_self _) h
  simpa only [Nat.zero_add] using hFrom

end TextTemplate.Lexer
