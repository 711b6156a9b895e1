import TextTemplate.Proofs.Reader.Agreement

/-!
# Where errors are put

The lexer and the parser count the bytes of an expression, the reader of templates those of the
whole text. Put together, an error stands at the start of a character of the template, in the first
placeholder that cannot be read, and shows the text that is found there.

* `Lexer.at_of_lexemes`: where lexemes are.
* `Part.located_of_error`: where the errors of an expression are.
* `Piece.pairwise_precedes`: placeholders stand one behind another.
* `Template.parse_error_located`: where the errors of a template are.
-/

namespace TextTemplate

open Lexer

/-! ## Positions -/

namespace Text

/-- From the position on, the rest of the text is found. -/
def At (text : List Char) (position : Nat) (rest : List Char) : Prop :=
  ∃ before, text = before ++ rest ∧ position = byteLength before

variable {text rest : List Char} {position : Nat}

theorem At.start (text : List Char) : At text 0 text := ⟨[], rfl, rfl⟩

theorem At.behind (h : At text position rest) (before : List Char) :
    At (before ++ text) (byteLength before + position) rest := by
  obtain ⟨more, rfl, rfl⟩ := h
  exact ⟨before ++ more, (List.append_assoc _ _ _).symm, (byteLength_append _ _).symm⟩

theorem At.followed (h : At text position rest) (after : List Char) :
    At (text ++ after) position (rest ++ after) := by
  obtain ⟨before, rfl, rfl⟩ := h
  exact ⟨before, List.append_assoc _ _ _, rfl⟩

theorem At.le (h : At text position rest) : position ≤ byteLength text := by
  obtain ⟨before, rfl, rfl⟩ := h
  rw [byteLength_append]
  omega

theorem At.excerpt (h : At text position rest) : excerpt text position = rest.take 20 := by
  obtain ⟨before, rfl, rfl⟩ := h
  exact excerpt_behind before rest

end Text

/-! ## Expressions -/

namespace Lexer

theorem at_of_lexemesFrom {fuel position : Nat} {text : List Char} {ls : List Lexeme}
    (h : lexemesFrom fuel position text = .ok ls) :
    ∀ l ∈ ls, ∃ offset rest, Text.At text offset rest ∧ l.position = position + offset := by
  induction fuel generalizing position text ls with
  | zero =>
    cases h
    intro l hl
    obtain rfl := List.mem_singleton.mp hl
    exact ⟨0, text, .start text, rfl⟩
  | succ fuel ih =>
    -- Positions count from the start of the text; the token stands behind its white space.
    let blanks := text.takeWhile Text.isBlank
    have hText : text = blanks ++ Text.trimStart text :=
      List.takeWhile_append_dropWhile.symm
    have hHere : Text.At text (Text.byteLength blanks) (Text.trimStart text) := ⟨_, hText, rfl⟩
    rw [lexemesFrom] at h
    dsimp only at h
    rw [byteLength_sub_trimStart] at h
    split at h
    · cases h
      intro l hl
      obtain rfl := List.mem_singleton.mp hl
      exact ⟨_, _, hHere, rfl⟩
    · rename_i c rest hCons
      split at h
      · cases h
      · rename_i t after hNext
        split at h
        · cases h
        · rename_i more hMore
          cases h
          obtain ⟨used, rfl⟩ := next?_suffix hNext
          rw [← List.cons_append, byteLength_sub_after] at hMore
          intro l hl
          rcases List.mem_cons.mp hl with rfl | hl
          · exact ⟨_, _, hHere, rfl⟩
          · obtain ⟨offset, rest, hAt, hPosition⟩ := ih hMore l hl
            rw [hCons] at hText
            rw [hText, hPosition, Nat.add_assoc, Nat.add_assoc]
            exact ⟨_, rest, (hAt.behind (c :: used)).behind blanks, rfl⟩

/-- Every lexeme is at the start of a character, or at the end of the text. -/
theorem at_of_lexemes {text : List Char} {ls : List Lexeme} (h : lexemes text = .ok ls) :
    ∀ l ∈ ls, ∃ rest, Text.At text l.position rest := by
  intro l hl
  obtain ⟨offset, rest, hAt, hPosition⟩ := at_of_lexemesFrom h l hl
  rw [Nat.zero_add] at hPosition
  exact ⟨rest, hPosition ▸ hAt⟩

end Lexer

/-- A fault of the parser is at one of the lexemes. -/
theorem Parser.at_of_expression {text : List Char} {ls : List Lexeme} {f : LocatedFault}
    (hLexemes : lexemes text = .ok ls) (h : expression ls = .error f) :
    ∃ rest, Text.At text f.position rest := by
  obtain ⟨rest, hSuffix, hPosition⟩ := (blames_of_expression h).position
  cases rest with
  | nil => exact ⟨text, hPosition ▸ .start text⟩
  | cons l rest =>
    obtain ⟨after, hAt⟩ := at_of_lexemes hLexemes l (hSuffix.mem List.mem_cons_self)
    exact ⟨after, hPosition ▸ hAt⟩

/-- The error shows text that stands at its position. -/
structure SyntaxError.Shows (e : SyntaxError) (rest : List Char) : Prop where
  front : e.excerpt.toList <+: rest
  short : e.excerpt.toList.length ≤ 20

theorem SyntaxError.shows_nothing (fault : SyntaxFault) (position : Nat) (rest : List Char) :
    SyntaxError.Shows ⟨fault, position, ""⟩ rest := ⟨List.nil_prefix, Nat.zero_le _⟩

theorem SyntaxError.shows_take (fault : SyntaxFault) (position : Nat) (rest : List Char) :
    SyntaxError.Shows ⟨fault, position, String.ofList (rest.take 20)⟩ rest := by
  constructor
  · rw [String.toList_ofList]
    exact List.take_prefix 20 rest
  · rw [String.toList_ofList]
    exact List.length_take_le 20 rest

theorem SyntaxError.Shows.followed {e : SyntaxError} {rest : List Char} (h : e.Shows rest)
    (after : List Char) : e.Shows (rest ++ after) :=
  ⟨h.front.trans (List.prefix_append rest after), h.short⟩

/-- The error of an expression is in the expression. -/
theorem Part.located_of_error {source : List Char} {base : Nat} {e : SyntaxError}
    (h : parse source base = .error e) :
    ∃ offset rest, Text.At source offset rest ∧ e.position = base + offset ∧ e.Shows rest := by
  have hFault {f : LocatedFault} {rest : List Char} (hAt : Text.At source f.position rest) :
      ∃ offset rest, Text.At source offset rest
        ∧ (f.toError source base).position = base + offset
        ∧ (f.toError source base).Shows rest := by
    refine ⟨f.position, rest, hAt, rfl, ?_⟩
    rw [LocatedFault.toError, hAt.excerpt]
    exact SyntaxError.shows_take _ _ _
  unfold parse at h
  split at h
  · cases h
    exact ⟨0, source, .start source, rfl, SyntaxError.shows_nothing _ _ _⟩
  · cases hLexemes : lexemes source with
    | error f =>
      rw [hLexemes] at h
      cases h
      obtain ⟨used, _, c, rest, hText, -, -, rfl⟩ := scansTo_of_error hLexemes
      exact hFault ⟨used, hText, rfl⟩
    | ok ls =>
      rw [hLexemes] at h
      dsimp only at h
      cases hRead : Parser.expression ls with
      | ok part =>
        rw [hRead] at h
        cases h
      | error f =>
        rw [hRead] at h
        cases h
        obtain ⟨rest, hAt⟩ := Parser.at_of_expression hLexemes hRead
        exact hFault hAt

/-- Whether an expression is read does not depend on where it stands. -/
theorem Part.parse_ok_shift {source : List Char} {k base : Nat} {p : Part} :
    parse source (k + base) = .ok p ↔ parse source base = .ok p := by
  rw [parse_shift]
  cases parse source base with
  | ok q => exact Iff.rfl
  | error e => constructor <;> (intro h; cases h)

/-! ## Placeholders -/

namespace Piece

/-- The piece ends in front of the start of the other one, if both are placeholders. -/
def Precedes : Piece → Piece → Prop
  | .placeholder start source, .placeholder start' _ => start + Text.byteLength source < start'
  | .unclosed _, _ => False
  | _, _ => True

/-- The position is in the placeholder: behind its opening mark and not behind the brace that closes
it, or at the opening mark if none does. -/
def Holds (text : List Char) (position : Nat) : Piece → Prop
  | .text _ => False
  | .placeholder start source => ∃ before after,
    text = before ++ '$' :: '{' :: (source ++ '}' :: after)
      ∧ closing? 0 none (source ++ '}' :: after) = some (source, after)
      ∧ start = Text.byteLength before + 2
      ∧ start ≤ position ∧ position ≤ start + Text.byteLength source
  | .unclosed start => ∃ before inside,
    text = before ++ '$' :: '{' :: inside ∧ closing? 0 none inside = none
      ∧ start = Text.byteLength before ∧ position = start

theorem start_of_cut {position : Nat} {text : List Char} {ps : List Piece}
    (h : Cut position text ps) :
    ∀ start source, .placeholder start source ∈ ps → position + 2 ≤ start := by
  induction h with
  | nil => simp
  | text _ _ _ _ ih =>
    intro start source hMem
    have := ih start source (by simpa using hMem)
    omega
  | placeholder _ _ ih =>
    intro start source hMem
    rcases List.mem_cons.mp hMem with hHere | hMem
    · cases hHere
      exact Nat.le_refl _
    · have := ih start source hMem
      omega
  | unclosed => simp

/-- Placeholders stand one behind another, and none behind one without an end. -/
theorem pairwise_precedes {position : Nat} {text : List Char} {ps : List Piece}
    (h : Cut position text ps) : ps.Pairwise Precedes := by
  induction h with
  | nil => exact .nil
  | text _ _ _ _ ih => exact .cons (fun piece _ => by cases piece <;> trivial) ih
  | placeholder _ hRest ih =>
    refine .cons (fun piece hMem => ?_) ih
    cases piece with
    | placeholder start source =>
      have := start_of_cut hRest start source hMem
      change _ < _
      omega
    | _ => trivial
  | unclosed => exact List.pairwise_singleton _ _

end Piece

/-- Every piece holds its error. -/
theorem Piece.holds_of_error {text : List Char} {piece : Piece} {e : SyntaxError}
    (hMem : piece ∈ Piece.pieces text) (h : Part.ofPiece text piece = .error e) :
    piece.Holds text e.position ∧ ∃ rest, Text.At text e.position rest ∧ e.Shows rest := by
  have hOccurs := occurs_of_mem hMem
  cases piece with
  | text s => cases h
  | placeholder start source =>
    obtain ⟨before, after, hText, hStart, hSource⟩ := hOccurs
    obtain ⟨offset, rest, hAt, hPosition, hShows⟩ := Part.located_of_error h
    rw [Nat.zero_add] at hStart
    have hLe := hAt.le
    refine ⟨⟨before, after, hText, ?_, hStart, by omega, by omega⟩, ?_⟩
    · exact Piece.closing?_eq_some_iff.mpr ⟨rfl, hSource⟩
    · have hFound := (hAt.followed ('}' :: after)).behind (before ++ ['$', '{'])
      have hLength : Text.byteLength (before ++ ['$', '{']) = Text.byteLength before + 2 :=
        Text.byteLength_append _ _
      rw [hLength, ← hStart, ← hPosition, List.append_assoc] at hFound
      exact ⟨_, hText ▸ hFound, hShows.followed _⟩
  | unclosed start =>
    obtain ⟨before, inside, hText, hStart, hNone⟩ := hOccurs
    rw [Nat.zero_add] at hStart
    cases h
    have hAt : Text.At text start ('$' :: '{' :: inside) := ⟨before, hText, hStart⟩
    refine ⟨⟨before, inside, hText, hNone, hStart, rfl⟩, _, hAt, ?_⟩
    rw [hAt.excerpt]
    exact SyntaxError.shows_take _ _ _

/-! ## Templates -/

/-- Where an error of a template is. -/
structure SyntaxError.Located (e : SyntaxError) (text : List Char) : Prop where
  inside : e.position ≤ Text.byteLength text
  /-- The error is at the start of a character or at the end, and shows what is found there. -/
  found : ∃ rest, Text.At text e.position rest ∧ e.Shows rest
  /-- The error is the one of the first piece that is not read. -/
  first : ∃ earlier faulty later, Piece.pieces text = earlier ++ faulty :: later
    ∧ (∀ piece ∈ earlier, ∃ part, Part.ofPiece text piece = .ok part)
    ∧ faulty.Holds text e.position ∧ Part.ofPiece text faulty = .error e
  /-- Every placeholder that ends in front of the error is read, also by itself. -/
  before (start : Nat) (source : List Char) : .placeholder start source ∈ Piece.pieces text →
    start + Text.byteLength source < e.position →
    ∃ part, Part.parse source start = .ok part
      ∧ Template.parse ("$\x7b" ++ String.ofList source ++ "\x7d")
        = .ok ⟨"$\x7b" ++ String.ofList source ++ "\x7d", [part]⟩

namespace Template

/-- A placeholder that is read in a template is read as a template by itself. -/
theorem parse_of_placeholder {text source : List Char} {start : Nat} {part : Part}
    (hMem : .placeholder start source ∈ Piece.pieces text)
    (h : Part.parse source start = .ok part) :
    parse ("$\x7b" ++ String.ofList source ++ "\x7d")
      = .ok ⟨"$\x7b" ++ String.ofList source ++ "\x7d", [part]⟩ := by
  obtain ⟨before, _, -, hStart, hSource⟩ := occurs_of_mem hMem
  have hSplits : Splits (String.ofList source).toList := by
    rw [String.toList_ofList]
    exact splits_iff.mpr hSource
  rw [hStart, Part.parse_ok_shift] at h
  rw [(parse_single hSplits).2, String.toList_ofList, h]
  rfl

/-- The errors of a template stand in its text: at the start of a character, in the first
placeholder that is not read. -/
theorem parse_error_located {raw : String} {e : SyntaxError} (h : parse raw = .error e) :
    e.Located raw.toList := by
  obtain ⟨earlier, faulty, later, hPieces, hEarlier, hFaulty⟩ :=
    exists_first_of_mapM_error (parse_eq_error h)
  have hMem : faulty ∈ Piece.pieces raw.toList := by simp [hPieces]
  obtain ⟨hHolds, rest, hAt, hShows⟩ := Piece.holds_of_error hMem hFaulty
  refine ⟨hAt.le, ⟨rest, hAt, hShows⟩, ⟨earlier, faulty, later, hPieces, hEarlier, hHolds, hFaulty⟩,
    fun start source hPlaceholder hEnds => ?_⟩
  have hOrder := Piece.pairwise_precedes (Piece.cut_pieces raw.toList)
  have hWhere := hPlaceholder
  rw [hPieces] at hOrder hWhere
  rcases List.mem_append.mp hWhere with hIn | hIn
  · obtain ⟨part, hPart⟩ := hEarlier _ hIn
    exact ⟨part, hPart, parse_of_placeholder hPlaceholder hPart⟩
  exfalso
  rcases List.mem_cons.mp hIn with rfl | hIn
  · obtain ⟨_, _, -, -, -, -, hLe⟩ := hHolds
    omega
  · have hBehind := (List.pairwise_cons.mp (List.pairwise_append.mp hOrder).2.1).1 _ hIn
    cases faulty with
    | text s => exact hHolds
    | placeholder start' source' =>
      obtain ⟨_, _, -, -, -, -, hLe⟩ := hHolds
      change _ < _ at hBehind
      omega
    | unclosed start' => exact hBehind

/-- The second placeholder holds two names, behind characters of more than one byte. -/
theorem parse_error_located_second :
    let raw := "né $\x7b'ü\x7d' ?? x\x7d → $\x7bé b\x7d $\x7b(\x7d $\x7b"
    ∃ e, parse raw = .error e ∧ e.position = 27 ∧ e.Located raw.toList := by
  intro raw
  have hPosition : (((parse raw).map fun _ => 0).tryCatch fun e => .ok e.position).toOption
      = some 27 := by decide +kernel
  have hError : (parse raw).isOk = false := by decide +kernel
  obtain ⟨e, he⟩ := exists_of_not_isOk hError
  rw [he] at hPosition
  exact ⟨e, he, Option.some.inj hPosition, parse_error_located he⟩

end Template

end TextTemplate
