import TextTemplate.Proofs.Lexer.Sources
import TextTemplate.Proofs.Reader.Positions

/-!
# Nothing is lost when a text is split into tokens

A text that the lexer accepts is white space and the sources of its tokens in turn. Each source
starts at the position of its token, is read as the token by itself, and is as long as it can be;
there is no other way to cut the text like this.

* `Stands`: what the source of a token is.
* `Tiles`: the text as sources with white space between them.
* `lexemes_eq_ok_iff`: the lexer cuts a text like this, and accepts it if there is a way to.
* `Tiles.increasing`, `Tiles.covers`: what follows for the positions of the tokens and for the
  characters of the text.
* `lexemes_lossless`: all of these for the lexer.
-/

namespace TextTemplate.Lexer

/-! ## Sources -/

/-- In front of the rest of a text, the source stands for the token. -/
structure Stands (source : List Char) (t : Token) (rest : List Char) : Prop where
  writes : Writes source t
  /-- By itself, the source is read as the token. -/
  alone : lexemes source = .ok [⟨t, 0⟩, ⟨.finish, Text.byteLength source⟩]
  /-- White space in a source belongs to a string literal. -/
  blanks : (∃ c ∈ source, Text.isBlank c = true) → ∃ s, t = .text s
  longest : Longest source rest

theorem Taken.lexemes_eq {c : Char} {more : List Char} {t : Token} (h : Taken c more t) :
    lexemes (c :: more) = .ok [⟨t, 0⟩, ⟨.finish, Text.byteLength (c :: more)⟩] := by
  have hEnd (fuel position : Nat) : lexemesFrom fuel position [] = .ok [⟨.finish, position⟩] := by
    cases fuel <;> rfl
  rw [lexemes, lexemesFrom, trimStart_cons more h.blank]
  dsimp only
  rw [h.alone]
  dsimp only
  rw [hEnd, Nat.sub_self, Nat.zero_add]
  rfl

theorem Stands.exists_cons {source rest : List Char} {t : Token} (h : Stands source t rest) :
    ∃ c more, source = c :: more ∧ Text.isBlank c = false := by
  obtain ⟨c, more, hSource, hTaken⟩ := h.writes.taken
  exact ⟨c, more, hSource, hTaken.blank⟩

theorem Stands.byteLength_pos {source rest : List Char} {t : Token} (h : Stands source t rest) :
    0 < Text.byteLength source := by
  obtain ⟨c, more, rfl, -⟩ := h.exists_cons
  exact Nat.lt_of_lt_of_le c.utf8Size_pos (Nat.le_add_right _ _)

theorem Stands.ends {source rest : List Char} {t : Token} (h : Stands source t rest) :
    Ends Text.isBlank (source ++ rest) := by
  obtain ⟨c, more, rfl, hBlank⟩ := h.exists_cons
  exact Ends.cons hBlank _

/-- What the lexer takes for a token stands for it. -/
theorem exists_stands_of_next? {c : Char} {rest after : List Char} {t : Token}
    (hBlank : Text.isBlank c = false) (h : next? c rest = some (t, after)) :
    ∃ source, c :: rest = source ++ after ∧ Stands source t after := by
  obtain ⟨source, hText, hWrites⟩ := exists_writes_of_next? hBlank h
  refine ⟨source, hText, hWrites, ?_, ?_, longest_of_next? h hText⟩
  · obtain ⟨d, more, rfl, hTaken⟩ := hWrites.taken
    exact hTaken.lexemes_eq
  · rintro ⟨d, hMem, hd⟩
    exact hWrites.text_of_blank hMem hd

/-! ## Texts made of sources -/

/-- From the position on, the text is white space and the sources of the lexemes in turn, each at
the position of its lexeme; the last lexeme marks the end. -/
inductive Tiles : Nat → List Char → List Lexeme → Prop
  | finish {position : Nat} {gap : List Char} : (∀ c ∈ gap, Text.isBlank c = true) →
      Tiles position gap [⟨.finish, position + Text.byteLength gap⟩]
  | token {position : Nat} {gap source rest : List Char} {t : Token} {ls : List Lexeme} :
      (∀ c ∈ gap, Text.isBlank c = true) → Stands source t rest →
      Tiles (position + Text.byteLength gap + Text.byteLength source) rest ls →
      Tiles position (gap ++ (source ++ rest)) (⟨t, position + Text.byteLength gap⟩ :: ls)

theorem tiles_of_lexemesFrom {fuel position : Nat} {text : List Char} {ls : List Lexeme}
    (hFuel : text.length < fuel) (h : lexemesFrom fuel position text = .ok ls) :
    Tiles position text ls := by
  induction fuel generalizing position text ls with
  | zero => omega
  | succ fuel ih =>
    have hLength := length_trimStart_le text
    have hText : text = text.takeWhile Text.isBlank ++ Text.trimStart text :=
      List.takeWhile_append_dropWhile.symm
    rw [lexemesFrom] at h
    dsimp only at h
    rw [byteLength_sub_trimStart] at h
    rcases trimStart_cases text with hNil | ⟨c, rest, hCons, hBlank⟩
    · rw [hNil] at h hText
      rw [List.append_nil] at hText
      cases h
      rw [← hText]
      exact .finish (hText ▸ all_of_mem_takeWhile)
    · rw [hCons] at h hLength hText
      dsimp only at h
      split at h
      · cases h
      · rename_i t after hNext
        have hAfter := (next?_suffix hNext).length_le
        obtain ⟨source, hSource, hStands⟩ := exists_stands_of_next? hBlank hNext
        rw [List.length_cons] at hLength
        rw [hSource, byteLength_sub_after] at h
        split at h
        · cases h
        · rename_i more hMore
          cases h
          have hTiles := Tiles.token all_of_mem_takeWhile hStands (ih (by omega) hMore)
          rw [hSource] at hText
          rwa [← hText] at hTiles

/-- A source that stands for a token is taken for it, and no more of the text is. -/
theorem Stands.next?_eq {c : Char} {more rest : List Char} {t : Token}
    (h : Stands (c :: more) t rest) : next? c (more ++ rest) = some (t, rest) := by
  obtain ⟨_, _, hSource, hTaken⟩ := h.writes.taken
  cases hSource
  obtain ⟨t', after, hNext, -⟩ := hTaken.further rest
  obtain ⟨source, hText, hStands⟩ := exists_stands_of_next? hTaken.blank hNext
  obtain ⟨-, rfl, rfl⟩ := h.writes.eq_of_longest hStands.writes h.longest hStands.longest hText
  exact hNext

theorem lexemesFrom_of_tiles {fuel position : Nat} {text : List Char} {ls : List Lexeme}
    (hFuel : text.length < fuel) (h : Tiles position text ls) :
    lexemesFrom fuel position text = .ok ls := by
  induction h generalizing fuel with
  | @finish position gap hGap =>
    obtain ⟨hTake, hDrop⟩ := takeWhile_append_ends hGap (Ends.nil Text.isBlank)
    rw [List.append_nil] at hTake hDrop
    obtain ⟨fuel, rfl⟩ := Nat.exists_eq_succ_of_ne_zero (Nat.ne_zero_of_lt hFuel)
    rw [lexemesFrom]
    dsimp only
    rw [byteLength_sub_trimStart, hTake, Text.trimStart, hDrop]
  | @token position gap source rest t ls hGap hStands _ ih =>
    obtain ⟨hTake, hDrop⟩ := takeWhile_append_ends hGap hStands.ends
    obtain ⟨fuel, rfl⟩ := Nat.exists_eq_succ_of_ne_zero (Nat.ne_zero_of_lt hFuel)
    obtain ⟨c, more, rfl, -⟩ := hStands.exists_cons
    have hRest : rest.length < fuel := by
      simp only [List.length_append, List.length_cons] at hFuel
      omega
    rw [lexemesFrom]
    dsimp only
    rw [byteLength_sub_trimStart, hTake, Text.trimStart, hDrop, List.cons_append]
    dsimp only
    rw [hStands.next?_eq]
    dsimp only
    rw [← List.cons_append, byteLength_sub_after, ih hRest]

/-- The lexer cuts a text into sources that are as long as they can be, if there is a way to. -/
theorem lexemes_eq_ok_iff {text : List Char} {ls : List Lexeme} :
    lexemes text = .ok ls ↔ Tiles 0 text ls :=
  ⟨tiles_of_lexemesFrom (Nat.lt_succ_self _), lexemesFrom_of_tiles (Nat.lt_succ_self _)⟩

namespace Tiles

variable {position : Nat} {text : List Char} {ls : List Lexeme}

/-- There is one end mark, at the end of the text. -/
theorem exists_body (h : Tiles position text ls) : ∃ body,
    ls = body ++ [⟨.finish, position + Text.byteLength text⟩] ∧ ∀ l ∈ body, l.token ≠ .finish := by
  induction h with
  | finish => exact ⟨[], rfl, by simp⟩
  | @token position gap source rest t ls _ hStands _ ih =>
    obtain ⟨body, rfl, hBody⟩ := ih
    refine ⟨⟨t, position + Text.byteLength gap⟩ :: body, ?_, ?_⟩
    · rw [Text.byteLength_append, Text.byteLength_append, Nat.add_assoc, Nat.add_assoc]
      rfl
    · exact List.forall_mem_cons.mpr ⟨hStands.writes.ne_finish, hBody⟩

theorem le_position (h : Tiles position text ls) : ∀ l ∈ ls, position ≤ l.position := by
  induction h with
  | finish => simp
  | token _ _ _ ih =>
    refine List.forall_mem_cons.mpr ⟨Nat.le_add_right _ _, fun l hl => ?_⟩
    have := ih l hl
    omega

/-- Every token is behind the ones before it. -/
theorem increasing (h : Tiles position text ls) : ls.Pairwise fun l m => l.position < m.position := by
  induction h with
  | finish => exact List.pairwise_singleton _ _
  | token _ hStands hRest ih =>
    refine .cons (fun l hl => ?_) ih
    have := hRest.le_position l hl
    have := hStands.byteLength_pos
    dsimp only
    omega

/-! ### Characters -/

/-- The character between two texts belongs to the source of one of the lexemes, which starts at the
position of the lexeme. -/
def Covers (position : Nat) (ls : List Lexeme) (before : List Char) (c : Char)
    (after : List Char) : Prop :=
  ∃ l ∈ ls, ∃ front inner outer rest, before = front ++ inner ∧ after = outer ++ rest
    ∧ l.position = position + Text.byteLength front ∧ Stands (inner ++ c :: outer) l.token rest

theorem Covers.behind {before after : List Char} {c : Char} (s : List Char) (l : Lexeme)
    (h : Covers (position + Text.byteLength s) ls before c after) :
    Covers position (l :: ls) (s ++ before) c after := by
  obtain ⟨m, hMem, front, inner, outer, rest, rfl, hAfter, hPosition, hStands⟩ := h
  refine ⟨m, List.mem_cons_of_mem l hMem, s ++ front, inner, outer, rest,
    (List.append_assoc _ _ _).symm, hAfter, ?_, hStands⟩
  rw [hPosition, Text.byteLength_append, Nat.add_assoc]

/-- A character of two texts in turn is in the first or in the second one. -/
theorem append_eq_append_cons {a b before after : List Char} {c : Char}
    (h : a ++ b = before ++ c :: after) :
    (∃ more, a = before ++ c :: more ∧ after = more ++ b)
      ∨ ∃ front, before = a ++ front ∧ b = front ++ c :: after := by
  rcases List.append_eq_append_iff.mp h with ⟨front, hBefore, hb⟩ | ⟨piece, ha, hc⟩
  · exact .inr ⟨front, hBefore, hb⟩
  · cases piece with
    | nil => exact .inr ⟨[], by simp [ha], hc.symm⟩
    | cons d more =>
      obtain ⟨rfl, hAfter⟩ := List.cons.inj hc
      exact .inl ⟨more, ha, hAfter⟩

/-- Every character that is not white space belongs to the source of a token. -/
theorem covers (h : Tiles position text ls) {before after : List Char} {c : Char}
    (hText : text = before ++ c :: after) (hBlank : Text.isBlank c = false) :
    Covers position ls before c after := by
  induction h generalizing before with
  | finish hGap =>
    rw [hGap c (by simp [hText])] at hBlank
    cases hBlank
  | @token position gap source rest t ls hGap hStands _ ih =>
    rcases append_eq_append_cons hText with ⟨more, hHere, -⟩ | ⟨front, rfl, hBehind⟩
    · rw [hGap c (by simp [hHere])] at hBlank
      cases hBlank
    · rcases append_eq_append_cons hBehind with ⟨outer, rfl, hAfter⟩ | ⟨later, rfl, hRest⟩
      · exact ⟨_, List.mem_cons_self, gap, front, outer, rest, rfl, hAfter, rfl, hStands⟩
      · rw [← List.append_assoc]
        refine Covers.behind (gap ++ source) _ ?_
        rw [Text.byteLength_append, ← Nat.add_assoc]
        exact ih hRest

end Tiles

/-! ## The lexer -/

/-- The text is split without a loss into the lexemes. -/
structure Lossless (text : List Char) (ls : List Lexeme) : Prop where
  /-- There is one end mark; it comes last, at the end of the text. -/
  finish : ∃ body, ls = body ++ [⟨.finish, Text.byteLength text⟩] ∧ ∀ l ∈ body, l.token ≠ .finish
  increasing : ls.Pairwise fun l m => l.position < m.position
  /-- Positions are at the start of a character or at the end. -/
  boundary : ∀ l ∈ ls, ∃ rest, Text.At text l.position rest
  tiles : Tiles 0 text ls
  /-- What belongs to no source is white space. -/
  covers (before after : List Char) (c : Char) : text = before ++ c :: after →
    Text.isBlank c = false → Tiles.Covers 0 ls before c after
  /-- There is no other way to cut the text. -/
  unique (ls' : List Lexeme) : Tiles 0 text ls' → ls' = ls

/-- The lexer splits a text without a loss. -/
theorem lexemes_lossless {text : List Char} {ls : List Lexeme} (h : lexemes text = .ok ls) :
    Lossless text ls := by
  have hTiles := lexemes_eq_ok_iff.mp h
  have hFinish := hTiles.exists_body
  rw [Nat.zero_add] at hFinish
  exact
    { finish := hFinish
      increasing := hTiles.increasing
      boundary := at_of_lexemes h
      tiles := hTiles
      covers := fun before after c hText hBlank => hTiles.covers hText hBlank
      unique := fun ls' hOther => Except.ok.inj ((lexemes_eq_ok_iff.mpr hOther).symm.trans h) }

/-- Words and operators without white space between them, a numeral in front of a point, a quote
behind a backslash, and characters of more than one byte. -/
theorem lexemes_lossless_dense :
    let text := " ü1??'é \\' x'<=1.5.b=#\u00a0".toList
    ∃ ls, lexemes text = .ok ls ∧ ls.map (·.position) = [1, 4, 6, 15, 17, 20, 21, 22, 23, 26]
      ∧ Lossless text ls := by
  intro text
  have hPositions : (lexemes text).toOption.map (·.map (·.position))
      = some [1, 4, 6, 15, 17, 20, 21, 22, 23, 26] := by decide +kernel
  cases h : lexemes text with
  | error f =>
    rw [h] at hPositions
    cases hPositions
  | ok ls =>
    rw [h] at hPositions
    exact ⟨ls, rfl, Option.some.inj hPositions, lexemes_lossless h⟩

end TextTemplate.Lexer
