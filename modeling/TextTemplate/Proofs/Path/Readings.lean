import TextTemplate.Evaluation.Evaluate
import TextTemplate.Proofs.Path.Tokens
import TextTemplate.Proofs.Reader.RoundTrip

/-!
# Both readers of paths agree

A path is read twice: token by token with the expression that it stands in, and later from the text
that was joined from what was read. What the first reader makes of a text that the second one can
read is a variable of the same path; and every variable of an expression that was read is evaluated
by the steps that stand in the expression.

* `Part.parse_of_parse?`: the text of a path as an expression.
* `Part.Mentions`: the variables of a part; `standsIn_of_derives` finds them among the tokens.
* `path_readings_agree`: both statements.
-/

namespace TextTemplate

open Grammar Lexer

/-! ## Paths as expressions -/

/-- The text of a path is read as a variable, if its keys are names for the lexer, its root is not a
keyword and its indices are doubles. -/
theorem Part.parse_of_parse? {text : String} {path : Path} (h : Path.parse? text = some path)
    (hExact : path.Exact)
    (hRoot : ∀ root rest, path = .key root :: rest →
      root ≠ "true" ∧ root ≠ "false" ∧ root ≠ "null")
    (base : Nat) :
    Part.parse text.toList base = .ok (.variable (String.ofList (Path.join path))) := by
  obtain ⟨root, rest, ts, rfl, hWord, hScans, hTrail⟩ := Path.scans_of_parse? h hExact
  have hName := (isIdentifier_of_ne hWord (hRoot root rest rfl)).name
  rw [hName] at hScans
  exact parse_of_scans hScans (.unconditional (.single (.uncompared (.path hTrail)))) base

/-! ## Paths among tokens -/

/-- No path goes on at the start of the run. -/
def Path.StopsAt (ts : List Token) : Prop :=
  ∀ t, ts.head? = some t → Parser.extendsOperand t = false

/-- The path stands among the tokens: its root, not as a field, and all fields and indices that
follow. -/
def Path.StandsIn (ts : List Token) (root : String) (path : Path) : Prop :=
  ∃ before trail after, ts = before ++ .name root :: (trail ++ after) ∧ Trail trail path
    ∧ before.getLast? ≠ some .dot ∧ Path.StopsAt after

namespace Path

variable {ts : List Token} {root : String} {path : Path}

theorem StopsAt.nil : StopsAt [] := by
  intro t h
  cases h

theorem StopsAt.cons {t : Token} (h : Parser.extendsOperand t = false) (ts : List Token) :
    StopsAt (t :: ts) := by
  intro t' h'
  cases h'
  exact h

/-- More tokens around a run. -/
theorem StandsIn.within {ls rs : List Token} (h : StandsIn ts root path)
    (hLeft : ls.getLast? ≠ some .dot) (hRight : StopsAt rs) :
    StandsIn (ls ++ (ts ++ rs)) root path := by
  obtain ⟨before, trail, after, rfl, hTrail, hBefore, hAfter⟩ := h
  refine ⟨ls ++ before, trail, after ++ rs, by simp, hTrail, ?_, ?_⟩
  · rw [List.getLast?_append]
    cases hLast : before.getLast? with
    | none => exact hLeft
    | some t => rwa [hLast] at hBefore
  · intro t ht
    rw [List.head?_append] at ht
    cases hHead : after.head? with
    | none =>
      rw [hHead] at ht
      exact hRight t ht
    | some t' =>
      rw [hHead] at ht
      cases ht
      exact hAfter _ hHead

theorem StandsIn.append {rs : List Token} (h : StandsIn ts root path) (hRight : StopsAt rs) :
    StandsIn (ts ++ rs) root path := by
  have hLeft : ([] : List Token).getLast? ≠ some .dot := by simp
  exact h.within hLeft hRight

theorem StandsIn.behind {ls : List Token} (h : StandsIn ts root path)
    (hLeft : ls.getLast? ≠ some .dot) : StandsIn (ls ++ ts) root path := by
  have hWithin := h.within hLeft StopsAt.nil
  rwa [List.append_nil] at hWithin

end Path

/-! ## The variables of a part -/

/-- The variable of this path occurs in the part. -/
inductive Part.Mentions (path : String) : Part → Prop
  | variable : Mentions path (.variable path)
  | argument {function : String} {args : List Part} {arg : Part} :
      arg ∈ args → Mentions path arg → Mentions path (.call function args)
  | left {left right : Part} : Mentions path left → Mentions path (.coalesce left right)
  | right {left right : Part} : Mentions path right → Mentions path (.coalesce left right)
  | collection {item : String} {index : Option String} {collection body : Part} :
      Mentions path collection → Mentions path (.forEach item index collection body)
  | body {item : String} {index : Option String} {collection body : Part} :
      Mentions path body → Mentions path (.forEach item index collection body)

def Phrase.Mentions (path : String) : Phrase → Prop
  | .ternary p | .coalesce p | .comparison p | .operand p => p.Mentions path
  | .arguments ps => ∃ p ∈ ps, p.Mentions path

/-- The text is joined from a path that stands among the tokens. -/
def Path.WrittenIn (ts : List Token) (text : String) : Prop :=
  ∃ root path, text = String.ofList (Path.join (.key root :: path)) ∧ Path.StandsIn ts root path

namespace Path.WrittenIn

variable {ts : List Token} {text : String}

theorem append (h : WrittenIn ts text) {t : Token} (ht : Parser.extendsOperand t = false)
    (rs : List Token) : WrittenIn (ts ++ t :: rs) text := by
  obtain ⟨root, path, hText, hStands⟩ := h
  exact ⟨root, path, hText, hStands.append (.cons ht rs)⟩

theorem behind (h : WrittenIn ts text) {t : Token} (ht : t ≠ .dot) (ls : List Token) :
    WrittenIn (ls ++ t :: ts) text := by
  obtain ⟨root, path, hText, hStands⟩ := h
  have hLast : (ls ++ [t]).getLast? ≠ some .dot := by simpa using ht
  have hBehind := hStands.behind hLast
  rw [List.append_assoc, List.singleton_append] at hBehind
  exact ⟨root, path, hText, hBehind⟩

end Path.WrittenIn

/-- Every variable of a phrase stands among the tokens that the phrase is derived from. -/
theorem writtenIn_of_derives {garbled : List Token → Prop} {ts : List Token} {φ : Phrase}
    {text : String} (h : Derives garbled ts φ) (hMentions : φ.Mentions text) :
    Path.WrittenIn ts text := by
  induction h with
  | @conditional c y n _ _ _ _ _ _ ihc ihy ihn =>
    obtain _ | ⟨hMem, hMentions⟩ := hMentions
    simp only [List.mem_cons, List.not_mem_nil, or_false] at hMem
    rcases hMem with rfl | rfl | rfl
    · exact (ihc hMentions).append rfl _
    · exact ((ihy hMentions).append rfl _).behind (by simp) _
    · have hNo : Path.WrittenIn (y ++ .colon :: n) text := (ihn hMentions).behind (by simp) y
      exact hNo.behind (by simp) c
  | unconditional _ ih | single _ ih | uncompared _ ih => exact ih hMentions
  | coalesce _ _ ihl ihr =>
    cases hMentions with
    | left hMentions => exact (ihl hMentions).append rfl _
    | right hMentions => exact (ihr hMentions).behind (by simp) _
  | recovered _ _ ihr =>
    cases hMentions with
    | left hMentions => cases hMentions
    | right hMentions => exact (ihr hMentions).behind (by simp) _
  | comparison op _ _ ihl ihr =>
    obtain _ | ⟨hMem, hMentions⟩ := hMentions
    simp only [List.mem_cons, List.not_mem_nil, or_false] at hMem
    rcases hMem with rfl | rfl
    · exact (ihl hMentions).append (by cases op <;> rfl) _
    · exact (ihr hMentions).behind (by cases op <;> simp [Comparison.token]) _
  | parentheses _ ih => exact ((ih hMentions).append rfl []).behind (by simp) []
  | number | negative | text | boolean | null => cases hMentions
  | path hTrail =>
    cases hMentions
    refine ⟨_, _, rfl, [], _, [], by simp, hTrail, by simp, Path.StopsAt.nil⟩
  | emptyCall =>
    obtain _ | ⟨hMem, -⟩ := hMentions
    cases hMem
  | call _ _ ih =>
    obtain _ | ⟨hMem, hMentions⟩ := hMentions
    exact ((ih ⟨_, hMem, hMentions⟩).append rfl []).behind (by simp) [_]
  | forEach _ _ ih =>
    cases hMentions with
    | collection hMentions =>
      exact ((ih ⟨_, by simp, hMentions⟩).append rfl []).behind (by simp) [_]
    | body hMentions =>
      exact ((ih ⟨_, by simp, hMentions⟩).append rfl []).behind (by simp) [_]
  | forEachIndexed _ _ _ ih =>
    cases hMentions with
    | collection hMentions =>
      exact ((ih ⟨_, by simp, hMentions⟩).append rfl []).behind (by simp) [_]
    | body hMentions =>
      exact ((ih ⟨_, by simp, hMentions⟩).append rfl []).behind (by simp) [_]
  | lastArgument _ ih =>
    obtain ⟨p, hMem, hMentions⟩ := hMentions
    obtain rfl := List.mem_singleton.mp hMem
    exact ih hMentions
  | moreArguments _ _ iht ihu =>
    obtain ⟨p, hMem, hMentions⟩ := hMentions
    rcases List.mem_cons.mp hMem with rfl | hMem
    · exact (iht hMentions).append rfl _
    · exact (ihu ⟨p, hMem, hMentions⟩).behind (by simp) _

/-! ## Both readers -/

/-- The variable of this text is a path that stands among the tokens. The text is read as that path,
and it is the path that evaluation follows. -/
structure Path.Followed (ts : List Token) (text root : String) (path : Path) : Prop where
  stands : StandsIn ts root path
  joined : text = String.ofList (join (.key root :: path))
  parsed : parse? text = some (.key root :: path)
  evaluated (registry : Registry) (s : Scope) :
    (Part.variable text).evaluate registry s
      = ((resolveIn? s.values (.key root :: path)).or (registry.resolve? (.key root :: path))).elim
          (if s.coalescing then .ok .null else .error (.variableNotFound text)) .ok

/-- What stands among the tokens of a text is read back when it is joined. -/
theorem Path.WrittenIn.exists_followed {source : List Char} {ts : List Token} {text : String}
    (h : WrittenIn ts text) (hScans : Scans source ts) :
    ∃ root path, Followed ts text root path := by
  obtain ⟨root, path, rfl, hStands⟩ := h
  obtain ⟨before, trail, after, rfl, hTrail, -, -⟩ := id hStands
  have hLexed := lexed_of_scans hScans
  simp only [List.forall_mem_append, List.forall_mem_cons] at hLexed
  obtain ⟨-, hRoot, hTokens, -⟩ := hLexed
  have hSegments := readSegments_of_trail hTrail hTokens
  have hRead := parse?_join hRoot.word.legible fun segment hMem => (hSegments segment hMem).legible
  refine ⟨root, path, hStands, rfl, hRead, fun registry s => ?_⟩
  rw [Part.evaluate, Scope.lookup?, hRead]
  dsimp only
  cases (resolveIn? s.values (.key root :: path)).or (registry.resolve? (.key root :: path)) <;> rfl

/-- Every variable of an expression that was read is a path of the expression. -/
theorem Part.exists_followed {source : List Char} {base : Nat} {p : Part}
    (h : parse source base = .ok p) : ∃ ts, Scans source ts
      ∧ ∀ text, p.Mentions text → ∃ root path, Path.Followed ts text root path := by
  obtain ⟨body, last, -, hScans, hDerives⟩ := exists_lexemes_of_parse h
  refine ⟨_, hScans, fun text hMentions => ?_⟩
  exact (writtenIn_of_derives hDerives hMentions).exists_followed hScans

/-- Both readers of paths agree. A text that is read as a path of names and of indices that are
doubles is read as an expression too, and it is the variable of the path. Every variable of an
expression or of a template that was read is a path that stands there: it is the text of the path,
which is read as the path again, and evaluation follows it. -/
theorem path_readings_agree :
    (∀ (text : String) (path : Path) (base : Nat), Path.parse? text = some path → path.Exact →
      (∀ root rest, path = .key root :: rest →
        root ≠ "true" ∧ root ≠ "false" ∧ root ≠ "null") →
      Part.parse text.toList base = .ok (.variable (String.ofList (Path.join path)))) ∧
    (∀ (source : List Char) (base : Nat) (p : Part), Part.parse source base = .ok p →
      ∃ ts, Scans source ts
        ∧ ∀ text, p.Mentions text → ∃ root path, Path.Followed ts text root path) ∧
    (∀ (raw : String) (t : Template), Template.parse raw = .ok t →
      ∀ p ∈ t.parts, ∀ text, p.Mentions text → ∃ start source ts root path,
        .placeholder start source ∈ Piece.pieces raw.toList ∧ Scans source ts
          ∧ Path.Followed ts text root path) := by
  refine ⟨fun text path base h hExact hRoot => Part.parse_of_parse? h hExact hRoot base,
    fun source base p h => Part.exists_followed h, fun raw t h p hp text hMentions => ?_⟩
  obtain ⟨piece, hMem, hPiece⟩ := exists_of_mem_mapM (Template.parse_eq_ok h) p hp
  cases piece with
  | text s =>
    cases hPiece
    cases hMentions
  | unclosed start => cases hPiece
  | placeholder start source =>
    obtain ⟨ts, hScans, hFollowed⟩ := Part.exists_followed hPiece
    obtain ⟨root, path, hPath⟩ := hFollowed text hMentions
    exact ⟨start, source, ts, root, path, hMem, hScans, hPath⟩

/-- A path with white space, leading zeros and a keyword as a field. -/
theorem path_readings_agree_spaced :
    let text := " user\t. items[ 007 ].true "
    let path : Path := [.key "user", .key "items", .index 7, .key "true"]
    Path.parse? text = some path
      ∧ Part.parse text.toList 2 = .ok (.variable "user.items[7].true")
      ∧ ∃ ts root rest, Scans text.toList ts
        ∧ Path.Followed ts "user.items[7].true" root rest := by
  intro text path
  have hPath : Path.parse? text = some path := by decide +kernel
  have hExact : path.Exact := by
    constructor
    · intro name hName
      simp only [path, List.mem_cons, Segment.key.injEq, reduceCtorEq, List.not_mem_nil, or_false,
        false_or] at hName
      rcases hName with rfl | rfl | rfl <;> exact isWord_iff.mp (by decide +kernel)
    · intro i hi
      simp only [path, List.mem_cons, Segment.index.injEq, reduceCtorEq, List.not_mem_nil, or_false,
        false_or] at hi
      rw [hi]
      decide
  have hRoot : ∀ root rest, path = .key root :: rest →
      root ≠ "true" ∧ root ≠ "false" ∧ root ≠ "null" := by
    intro root rest hEq
    obtain ⟨hKey, -⟩ := List.cons.inj hEq
    cases hKey
    decide
  have hRead : Part.parse text.toList 2 = .ok (.variable "user.items[7].true") :=
    path_readings_agree.1 text path 2 hPath hExact hRoot
  obtain ⟨ts, hScans, hFollowed⟩ := path_readings_agree.2.1 _ 2 _ hRead
  obtain ⟨root, rest, hRest⟩ := hFollowed _ .variable
  exact ⟨hPath, hRead, ts, root, rest, hScans, hRest⟩

end TextTemplate
