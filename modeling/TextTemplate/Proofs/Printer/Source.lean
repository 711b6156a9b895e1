import TextTemplate.Proofs.Lexer.Spelling
import TextTemplate.Proofs.Parser.Emitted
import TextTemplate.Proofs.Parser.Recognition

/-!
# The source of a part is read back

The source of a part that the parser emits consists of tokens that the strict grammar derives as
the same part; only a zero that lost its sign differs, and is numerically the same.

* `Rereads`: the statement for one part, in front of whatever ends an operand.
* `rereads_of_emitted`: it holds of every part that the parser emits, by induction on the part.
-/

namespace TextTemplate

open Lexer Grammar

/-! ## The printer, rule by rule -/

theorem Part.source_variable (path : String) : (Part.variable path).source = path.toList := rfl

theorem Part.source_call (name : String) (args : List Part) :
    (Part.call name args).source = name.toList ++ '(' :: argsSource args ++ [')'] := rfl

theorem Part.source_coalesce (left right : Part) :
    (Part.coalesce left right).source
      = (if left.isCoalesce then '(' :: left.source ++ [')'] else left.source)
        ++ ' ' :: '?' :: '?' :: ' ' :: right.source := by
  change _ = _ ++ ([' ', '?', '?', ' '] ++ right.source)
  rw [← List.append_assoc]
  rfl

/-- A loop is written like a call of `forEach` with the names of the loop as first arguments. -/
theorem Part.source_forEach (item : String) (index : Option String) (collection body : Part) :
    (Part.forEach item index collection body).source
      = (Part.call "forEach" (.variable item :: index.toList.map Part.variable
        ++ [collection, body])).source := by
  have hName : "forEach(".toList = "forEach".toList ++ ['('] := rfl
  cases index with
  | none =>
    have hArgs : argsSource [.variable item, collection, body]
        = item.toList ++ ", ".toList ++ (collection.source ++ ", ".toList ++ body.source) := rfl
    have hSource : (Part.forEach item none collection body).source
        = "forEach(".toList ++ item.toList ++ ", ".toList ++ [] ++ collection.source
          ++ ", ".toList ++ body.source ++ [')'] := rfl
    change _ = (Part.call "forEach" [.variable item, collection, body]).source
    rw [hSource, source_call, hArgs, hName]
    simp only [List.append_assoc, List.nil_append, List.cons_append]
  | some index =>
    have hArgs : argsSource [.variable item, .variable index, collection, body]
        = item.toList ++ ", ".toList
          ++ (index.toList ++ ", ".toList ++ (collection.source ++ ", ".toList ++ body.source)) :=
      rfl
    have hSource : (Part.forEach item (some index) collection body).source
        = "forEach(".toList ++ item.toList ++ ", ".toList ++ (index.toList ++ ", ".toList)
          ++ collection.source ++ ", ".toList ++ body.source ++ [')'] := rfl
    change _ = (Part.call "forEach" [.variable item, .variable index, collection, body]).source
    rw [hSource, source_call, hArgs, hName]
    simp only [List.append_assoc, List.nil_append, List.cons_append]

/-! ## Boundaries -/

/-- No token goes on at the start of the rest. -/
structure Boundary (rest : List Char) : Prop where
  word : Ends isNamePart rest
  numeral : EndsNumeral rest

theorem Boundary.nil : Boundary [] := ⟨Ends.nil _, Ends.nil _, Ends.nil _⟩

theorem Boundary.comma (rest : List Char) : Boundary (',' :: rest) :=
  ⟨Ends.cons rfl _, Ends.cons rfl _, Ends.cons rfl _⟩

theorem Boundary.rightParen (rest : List Char) : Boundary (')' :: rest) :=
  ⟨Ends.cons rfl _, Ends.cons rfl _, Ends.cons rfl _⟩

theorem Boundary.blank (rest : List Char) : Boundary (' ' :: rest) :=
  ⟨Ends.cons rfl _, Ends.cons rfl _, Ends.cons rfl _⟩

theorem Boundary.rightBracket (rest : List Char) : Boundary (']' :: rest) :=
  ⟨Ends.cons rfl _, Ends.cons rfl _, Ends.cons rfl _⟩

/-- The text consists of the tokens wherever it stands in front of a boundary. -/
def Spells (text : List Char) (ts : List Token) : Prop :=
  ∀ rest us, Boundary rest → Scans rest us → Scans (text ++ rest) (ts ++ us)

/-- The source of the part consists of tokens that are derived as the same part, as an operand
unless it is coalescing. -/
def Rereads (p : Part) : Prop :=
  ∃ ts q, q.same p = true ∧ Derives NoRecovery ts (.coalesce q) ∧
    (p.isCoalesce = false → Derives NoRecovery ts (.operand q)) ∧ Spells p.source ts

theorem Rereads.of_operand {p q : Part} {ts : List Token} (hSame : q.same p = true)
    (hOperand : Derives NoRecovery ts (.operand q)) (hSpells : Spells p.source ts) : Rereads p :=
  ⟨ts, q, hSame, .single (.uncompared hOperand), fun _ => hOperand, hSpells⟩

/-! ## Constants -/

theorem spells_word {word : String} (h : IsWord word) : Spells word.toList [wordToken word] :=
  fun _ _ hBoundary hRest => Scans.word h hBoundary.word hRest

theorem rereads_null : Rereads (.literal .null) := by
  have hSpells : Spells "null".toList [wordToken "null"] := spells_word (by decide +kernel)
  exact .of_operand rfl .null hSpells

theorem rereads_boolean (b : Bool) : Rereads (.literal (.boolean b)) := by
  cases b with
  | true =>
    have hSpells : Spells "true".toList [wordToken "true"] := spells_word (by decide +kernel)
    exact .of_operand rfl (.boolean true) hSpells
  | false =>
    have hSpells : Spells "false".toList [wordToken "false"] := spells_word (by decide +kernel)
    exact .of_operand rfl (.boolean false) hSpells

theorem rereads_text (s : String) : Rereads (.literal (.text s)) := by
  have hSame : Part.same (.literal (.text s)) (.literal (.text s)) = true := by
    simp [Part.same, Value.same]
  exact .of_operand hSame (.text s) fun _ _ _ hRest => Scans.text s hRest

theorem rereads_number {x : Number} (h : x.isFinite = true) : Rereads (.literal (.number x)) := by
  obtain ⟨negative, whole, fraction, m, hText, hSome, hWhole, hFraction, hValue, hSame⟩ :=
    Number.exists_numeral h
  have hSource : (Part.literal (.number x)).source
      = Number.signText negative ++ Numeral.written whole fraction := hText
  have hDigits : Spells (Numeral.written whole fraction) [.number (.finite false m)] := by
    intro rest us hBoundary hRest
    have hScans := Scans.numeral hSome hWhole hFraction hBoundary.numeral hRest
    rwa [hValue] at hScans
  cases negative with
  | false =>
    refine .of_operand ?_ (.number (.finite false m)) ?_
    · simpa [Part.same, Value.same] using hSame
    · rw [hSource]
      exact hDigits
  | true =>
    refine .of_operand ?_ (.negative (.finite false m)) ?_
    · simpa [Part.same, Value.same, Number.neg] using hSame
    · rw [hSource]
      exact fun rest us hBoundary hRest => .token rfl rfl (hDigits rest us hBoundary hRest)

/-! ## Paths -/

theorem field_wordToken (word : String) : Field (wordToken word) word := by
  unfold wordToken
  split
  · rename_i hTrue
    rw [hTrue]
    exact .yes
  · split
    · rename_i hFalse
      rw [hFalse]
      exact .no
    · split
      · rename_i hNull
        rw [hNull]
        exact .null
      · exact .name word

theorem spells_index (i : Nat) {rest : List Char} {us : List Token} (hRest : Scans rest us) :
    Scans ((Segment.index i).text ++ rest)
      (.leftBracket :: .number (Number.ofNat i) :: .rightBracket :: us) := by
  have hDigits : ∀ c ∈ Nat.toDigits 10 i, c.isDigit = true := fun c hc => isDigit_of_mem_digits hc
  have hClosing : Scans (']' :: rest) (.rightBracket :: us) := .token rfl rfl hRest
  have hScans := Scans.numeral Nat.toDigits_ne_nil hDigits (List.forall_mem_nil _)
    (Boundary.rightBracket rest).numeral hClosing
  rw [Numeral.value_digits, Numeral.written, if_pos rfl, List.append_nil] at hScans
  rw [Segment.text, List.cons_append, List.cons_append, List.append_assoc]
  exact .token rfl rfl hScans

theorem ends_joinRest (path : Path) {rest : List Char} (h : Ends isNamePart rest) :
    Ends isNamePart (Path.joinRest path ++ rest) := by
  rcases path with _ | ⟨name | i, path⟩
  · exact h
  · exact Ends.cons rfl _
  · exact Ends.cons rfl _

/-- The fields and indices of a path that was read are read again. -/
theorem exists_trail {path : Path} (h : ∀ segment ∈ path, ReadSegment segment) :
    ∃ ts, Trail ts path ∧ Spells (Path.joinRest path) ts := by
  induction path with
  | nil => exact ⟨[], .nil, fun _ _ _ hRest => hRest⟩
  | cons segment path ih =>
    obtain ⟨hSegment, hPath⟩ := List.forall_mem_cons.mp h
    obtain ⟨ts, hTrail, hSpells⟩ := ih hPath
    cases segment with
    | key name =>
      refine ⟨.dot :: wordToken name :: ts, .field (field_wordToken name) hTrail, ?_⟩
      intro rest us hBoundary hRest
      have hMore := hSpells rest us hBoundary hRest
      have hScans := Scans.word hSegment (ends_joinRest path hBoundary.word) hMore
      rw [Path.joinRest, List.cons_append, List.cons_append, List.append_assoc]
      exact .token rfl rfl hScans
    | index i =>
      obtain ⟨x, n, hWhole, rfl⟩ := hSegment
      obtain ⟨read, hRead, hSame⟩ := Path.whole?_ofIndex hWhole
      have hIndex := Trail.index hRead hTrail
      rw [hSame] at hIndex
      refine ⟨.leftBracket :: .number (Number.ofNat (min n (Path.indexLimit - 1))) ::
        .rightBracket :: ts, hIndex, ?_⟩
      intro rest us hBoundary hRest
      rw [Path.joinRest, List.append_assoc]
      exact spells_index _ (hSpells rest us hBoundary hRest)

theorem rereads_path {root : String} {path : Path} (hRoot : IsIdentifier root)
    (hPath : ∀ segment ∈ path, ReadSegment segment) :
    Rereads (.variable (String.ofList (Path.join (.key root :: path)))) := by
  obtain ⟨ts, hTrail, hSpells⟩ := exists_trail hPath
  have hDerives : Derives NoRecovery (.name root :: ts)
      (.operand (.variable (String.ofList (Path.join (.key root :: path))))) := .path hTrail
  refine .of_operand (by simp [Part.same]) hDerives ?_
  intro rest us hBoundary hRest
  have hScans := Scans.word hRoot.word (ends_joinRest path hBoundary.word)
    (hSpells rest us hBoundary hRest)
  rw [hRoot.name] at hScans
  rw [Part.source_variable, String.toList_ofList, Path.join, Segment.text, List.append_assoc]
  exact hScans

/-- A name by itself is read as a variable without fields and indices. -/
theorem rereads_name {name : String} (h : IsIdentifier name) : Rereads (.variable name) := by
  have hName : String.ofList (Path.join [.key name]) = name := by
    simp [Path.join, Path.joinRest, Segment.text]
  have hRereads : Rereads (.variable (String.ofList (Path.join [.key name]))) :=
    rereads_path h (List.forall_mem_nil _)
  rwa [hName] at hRereads

/-! ## Calls -/

/-- The sources of arguments with commas between them. -/
theorem exists_arguments {args : List Part} (hSome : args ≠ []) (h : ∀ arg ∈ args, Rereads arg) :
    ∃ ts qs, Part.sameAll qs args = true ∧ Derives NoRecovery ts (.arguments qs) ∧
      Spells (Part.argsSource args) ts := by
  induction args with
  | nil => exact absurd rfl hSome
  | cons arg args ih =>
    obtain ⟨hArg, hArgs⟩ := List.forall_mem_cons.mp h
    obtain ⟨ts, q, hSame, hDerives, -, hSpells⟩ := hArg
    cases args with
    | nil =>
      exact ⟨ts, [q], by simp [Part.sameAll, hSame], .lastArgument (.unconditional hDerives),
        hSpells⟩
    | cons next args =>
      obtain ⟨us, qs, hSameRest, hDerivesRest, hSpellsRest⟩ := ih (by simp) hArgs
      refine ⟨ts ++ .comma :: us, q :: qs, by simp [Part.sameAll, hSame, hSameRest],
        .moreArguments (.unconditional hDerives) hDerivesRest, ?_⟩
      intro rest vs hBoundary hRest
      have hScans := hSpellsRest rest vs hBoundary hRest
      have hComma : Scans (',' :: ' ' :: (Part.argsSource (next :: args) ++ rest))
          (.comma :: (us ++ vs)) := .token rfl rfl (.blank rfl hScans)
      have hAll := hSpells _ _ (Boundary.comma _) hComma
      simpa [Part.argsSource] using hAll

/-- The source of a call. -/
def callSource (name : String) (args : List Part) : List Char :=
  name.toList ++ '(' :: (Part.argsSource args ++ [')'])

theorem spells_parens {name : String} {args : List Part} {ts : List Token}
    (hName : IsIdentifier name) (hArgs : Spells (Part.argsSource args) ts) :
    Spells (callSource name args) (.name name :: (.leftParen :: ts ++ [.rightParen])) := by
  intro rest us _ hRest
  have hClosing : Scans (')' :: rest) (.rightParen :: us) := .token rfl rfl hRest
  have hInside := hArgs _ _ (Boundary.rightParen rest) hClosing
  have hOpening : Scans ('(' :: (Part.argsSource args ++ ')' :: rest))
      (.leftParen :: (ts ++ .rightParen :: us)) := .token rfl rfl hInside
  have hAll := Scans.word hName.word (Ends.cons rfl _) hOpening
  rw [hName.name] at hAll
  simpa [callSource] using hAll

theorem rereads_call {name : String} {args : List Part} (hName : IsIdentifier name)
    (hForEach : name ≠ "forEach") (h : ∀ arg ∈ args, Rereads arg) :
    Rereads (.call name args) := by
  have hSource : (Part.call name args).source = callSource name args := by
    rw [Part.source_call, callSource, List.append_assoc, List.cons_append]
  cases args with
  | nil =>
    refine .of_operand ?_ (.emptyCall hForEach) ?_
    · simp [Part.same, Part.sameAll]
    · have hEmpty : Spells (Part.argsSource []) [] := fun _ _ _ hRest => hRest
      rw [hSource]
      exact spells_parens hName hEmpty
  | cons arg args =>
    obtain ⟨ts, qs, hSame, hDerives, hSpells⟩ := exists_arguments (by simp) h
    refine .of_operand ?_ (.call hForEach hDerives) ?_
    · simp [Part.same, hSame]
    · rw [hSource]
      exact spells_parens hName hSpells

/-! ## Coalescing and loops -/

theorem rereads_coalesce {left right : Part} (hLeft : Rereads left) (hRight : Rereads right) :
    Rereads (.coalesce left right) := by
  obtain ⟨ts, q, hSame, hCoalesce, hOperand, hSpells⟩ := hLeft
  obtain ⟨us, r, hSameRight, hDerivesRight, -, hSpellsRight⟩ := hRight
  -- The left side is an operand, with parentheses around it if it is coalescing itself.
  obtain ⟨vs, hDerives, hSpellsLeft⟩ : ∃ vs, Derives NoRecovery vs (.operand q) ∧
      Spells (if left.isCoalesce then '(' :: left.source ++ [')'] else left.source) vs := by
    cases hLeft : left.isCoalesce with
    | false => exact ⟨ts, hOperand hLeft, hSpells⟩
    | true =>
      refine ⟨_, .parentheses (.unconditional hCoalesce), ?_⟩
      intro rest ws _ hRest
      have hClosing : Scans (')' :: rest) (.rightParen :: ws) := .token rfl rfl hRest
      have hInside := hSpells _ _ (Boundary.rightParen rest) hClosing
      rw [if_pos rfl, List.cons_append, List.append_assoc, List.cons_append, List.cons_append,
        List.append_assoc, List.cons_append]
      exact .token rfl rfl hInside
  refine ⟨vs ++ .coalesce :: us, .coalesce q r, by simp [Part.same, hSame, hSameRight],
    .coalesce (.uncompared hDerives) hDerivesRight, by simp [Part.isCoalesce], ?_⟩
  intro rest ws hBoundary hRest
  have hMore := hSpellsRight rest ws hBoundary hRest
  have hMark : Scans (' ' :: '?' :: '?' :: ' ' :: (right.source ++ rest))
      (.coalesce :: (us ++ ws)) := .blank rfl (.token rfl rfl (.blank rfl hMore))
  rw [Part.source_coalesce, List.append_assoc, List.append_assoc]
  exact hSpellsLeft _ _ (Boundary.blank _) hMark

theorem Part.eq_variable_of_same {q : Part} {path : String}
    (h : q.same (.variable path) = true) : q = .variable path := by
  match q with
  | .variable other =>
    rw [Part.same] at h
    rw [eq_of_beq h]
  | .text _ | .literal _ | .call _ _ | .coalesce _ _ | .forEach _ _ _ _ => cases h

theorem Part.sameAll_cons {qs ps : List Part} {p : Part} (h : sameAll qs (p :: ps) = true) :
    ∃ q rest, qs = q :: rest ∧ q.same p = true ∧ sameAll rest ps = true := by
  cases qs with
  | nil => cases h
  | cons q rest =>
    rw [sameAll, Bool.and_eq_true] at h
    exact ⟨q, rest, rfl, h⟩

theorem Part.sameAll_nil {qs : List Part} (h : sameAll qs [] = true) : qs = [] := by
  cases qs with
  | nil => rfl
  | cons => cases h

theorem plainName_of_identifier {name : String} (h : IsIdentifier name) : PlainName name := by
  intro c hc
  have hPart := h.word.isNamePart c hc
  constructor
  · rintro rfl
    cases hPart
  · rintro rfl
    cases hPart

theorem rereads_forEach {item : String} {index : Option String} {collection body : Part}
    (hItem : IsIdentifier item) (hIndex : ∀ name, index = some name → IsIdentifier name)
    (hCollection : Rereads collection) (hBody : Rereads body) :
    Rereads (.forEach item index collection body) := by
  have hArgs : ∀ arg ∈ .variable item :: index.toList.map Part.variable ++ [collection, body],
      Rereads arg := by
    cases index with
    | none => simpa using ⟨rereads_name hItem, hCollection, hBody⟩
    | some index =>
      simpa using ⟨rereads_name hItem, rereads_name (hIndex index rfl), hCollection, hBody⟩
  obtain ⟨ts, qs, hSame, hDerives, hSpells⟩ := exists_arguments (by simp) hArgs
  have hAll : Spells (Part.forEach item index collection body).source
      (.name "forEach" :: (.leftParen :: ts ++ [.rightParen])) := by
    rw [Part.source_forEach, Part.source_call, List.append_assoc, List.cons_append]
    exact spells_parens (by decide +kernel) hSpells
  obtain ⟨q, more, rfl, hFirst, hMore⟩ := Part.sameAll_cons hSame
  obtain rfl := Part.eq_variable_of_same hFirst
  cases index with
  | none =>
    obtain ⟨c, last, rfl, hSameCollection, hLast⟩ := Part.sameAll_cons hMore
    obtain ⟨b, nothing, rfl, hSameBody, hNothing⟩ := Part.sameAll_cons hLast
    obtain rfl := Part.sameAll_nil hNothing
    refine .of_operand ?_ (.forEach (plainName_of_identifier hItem) hDerives) hAll
    simp [Part.same, hSameCollection, hSameBody]
  | some index =>
    obtain ⟨q, both, rfl, hSecond, hBoth⟩ := Part.sameAll_cons hMore
    obtain rfl := Part.eq_variable_of_same hSecond
    obtain ⟨c, last, rfl, hSameCollection, hLast⟩ := Part.sameAll_cons hBoth
    obtain ⟨b, nothing, rfl, hSameBody, hNothing⟩ := Part.sameAll_cons hLast
    obtain rfl := Part.sameAll_nil hNothing
    refine .of_operand ?_ (.forEachIndexed (plainName_of_identifier hItem)
      (plainName_of_identifier (hIndex index rfl)) hDerives) hAll
    simp [Part.same, hSameCollection, hSameBody]

/-! ## All parts -/

theorem rereads_of_emitted {p : Part} (h : Emitted p) : Rereads p := by
  induction h with
  | null => exact rereads_null
  | boolean b => exact rereads_boolean b
  | number hFinite => exact rereads_number hFinite
  | text s => exact rereads_text s
  | path hRoot hPath => exact rereads_path hRoot hPath
  | call hName hForEach _ ih => exact rereads_call hName hForEach ih
  | coalesce _ _ ihl ihr => exact rereads_coalesce ihl ihr
  | forEach hItem hIndex _ _ ihCollection ihBody =>
    exact rereads_forEach hItem hIndex ihCollection ihBody

end TextTemplate
