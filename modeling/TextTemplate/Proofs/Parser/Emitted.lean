import TextTemplate.Proofs.Lexer.Scans
import TextTemplate.Proofs.Parser.Grammar

/-!
# Parts that the parser emits

Not every part has a source: the parser emits parts whose names are identifiers, whose paths are
joined from words and indices, and whose constants are null, booleans, texts and numbers. That is an
invariant of derivations from the tokens of a text.

* `Emitted`: the invariant.
* `emitted_of_derives`: what is derived from tokens of a text, without infinite numbers, has it.
-/

namespace TextTemplate

open Lexer Grammar

/-- The step of a path that was read: a key is a word, and an index a whole number up to the bound
of indices. -/
def ReadSegment : Segment → Prop
  | .key name => IsWord name
  | .index i => ∃ (x : Number) (n : Nat), x.whole? = some (n : Int) ∧
      i = min n (Path.indexLimit - 1)

/-- A part that the parser emits. -/
inductive Emitted : Part → Prop
  | null : Emitted (.literal .null)
  | boolean (b : Bool) : Emitted (.literal (.boolean b))
  | number {x : Number} : x.isFinite = true → Emitted (.literal (.number x))
  | text (s : String) : Emitted (.literal (.text s))
  | path {root : String} {path : Path} :
      IsIdentifier root → (∀ segment ∈ path, ReadSegment segment) →
      Emitted (.variable (String.ofList (Path.join (.key root :: path))))
  | call {name : String} {args : List Part} :
      IsIdentifier name → name ≠ "forEach" → (∀ arg ∈ args, Emitted arg) →
      Emitted (.call name args)
  | coalesce {left right : Part} :
      Emitted left → Emitted right → Emitted (.coalesce left right)
  | forEach {item : String} {index : Option String} {collection body : Part} :
      IsIdentifier item → (∀ name, index = some name → IsIdentifier name) →
      Emitted collection → Emitted body → Emitted (.forEach item index collection body)

/-! ## Names -/

theorem isIdentifier_if : IsIdentifier "if" := by decide +kernel

theorem isIdentifier_function (op : Comparison) : IsIdentifier op.function := by
  cases op <;> decide +kernel

theorem isWord_of_field {t : Token} {name : String} (h : Field t name) (hLexed : Lexed t) :
    IsWord name := by
  cases h with
  | name => exact IsIdentifier.word hLexed
  | yes | no | null => decide +kernel

theorem readSegments_of_trail {ts : List Token} {path : Path} (h : Trail ts path)
    (hLexed : ∀ t ∈ ts, Lexed t) : ∀ segment ∈ path, ReadSegment segment := by
  induction h with
  | nil => simp
  | field hField _ ih =>
    simp only [List.forall_mem_cons] at hLexed ⊢
    exact ⟨isWord_of_field hField hLexed.2.1, ih hLexed.2.2⟩
  | index hWhole _ ih =>
    simp only [List.forall_mem_cons] at hLexed ⊢
    exact ⟨⟨_, _, hWhole, rfl⟩, ih hLexed.2.2.2⟩

/-- A variable without fields and indices is an identifier. -/
theorem Emitted.identifier_of_plain {path : String} (h : Emitted (.variable path))
    (hPlain : PlainName path) : IsIdentifier path := by
  generalize hPart : Part.variable path = p at h
  cases h with
  | @path root segments hRoot hSegments =>
    cases hPart
    cases segments with
    | nil =>
      have hName : String.ofList (Path.join [.key root]) = root := by
        simp [Path.join, Path.joinRest, Segment.text]
      rwa [hName]
    | cons segment segments =>
      exfalso
      cases segment with
      | key name =>
        refine (hPlain '.' ?_).1 rfl
        simp [Path.join, Path.joinRest, Segment.text]
      | index i =>
        refine (hPlain '[' ?_).2 rfl
        simp [Path.join, Path.joinRest, Segment.text]
  | _ => cases hPart

/-! ## Derivations -/

def EmittedPhrase : Phrase → Prop
  | .ternary p | .coalesce p | .comparison p | .operand p => Emitted p
  | .arguments ps => ∀ p ∈ ps, Emitted p

/-- A token of a text, and not an infinite number. -/
def FiniteToken (t : Token) : Prop := Lexed t ∧ ∀ x, t = .number x → x.isFinite = true

/-- What is derived from tokens of a text, without infinite numbers, is a part that the parser
emits. -/
theorem emitted_of_derives {garbled : List Token → Prop} {ts : List Token} {φ : Phrase}
    (h : Derives garbled ts φ) (hTokens : ∀ t ∈ ts, FiniteToken t) : EmittedPhrase φ := by
  have hNumber {t : Token} {x : Number} (ht : FiniteToken t) (hEq : t = .number x) :
      x.isFinite = true := ht.2 x hEq
  induction h with
  | conditional _ _ _ ihc ihy ihn =>
    simp only [List.forall_mem_append, List.forall_mem_cons] at hTokens
    refine .call isIdentifier_if (by decide) ?_
    simp only [List.forall_mem_cons]
    exact ⟨ihc hTokens.1, ihy hTokens.2.2.1, ihn hTokens.2.2.2.2, by simp⟩
  | unconditional _ ih | single _ ih | uncompared _ ih => exact ih hTokens
  | coalesce _ _ ihl ihr =>
    simp only [List.forall_mem_append, List.forall_mem_cons] at hTokens
    exact .coalesce (ihl hTokens.1) (ihr hTokens.2.2)
  | recovered _ _ ihr =>
    simp only [List.forall_mem_append, List.forall_mem_cons] at hTokens
    exact .coalesce .null (ihr hTokens.2.2)
  | comparison op _ _ ihl ihr =>
    simp only [List.forall_mem_append, List.forall_mem_cons] at hTokens
    refine .call (isIdentifier_function op) (by cases op <;> decide) ?_
    simp only [List.forall_mem_cons]
    exact ⟨ihl hTokens.1, ihr hTokens.2.2, by simp⟩
  | parentheses _ ih =>
    simp only [List.cons_append, List.forall_mem_append, List.forall_mem_cons] at hTokens
    exact ih hTokens.2.1
  | number x => exact .number (hNumber (hTokens _ List.mem_cons_self) rfl)
  | negative x =>
    have hFinite : x.isFinite = true :=
      hNumber (hTokens _ (List.mem_cons_of_mem _ List.mem_cons_self)) rfl
    refine .number ?_
    cases x <;> first | rfl | cases hFinite
  | text s => exact .text s
  | boolean b => exact .boolean b
  | null => exact .null
  | path hTrail =>
    simp only [List.forall_mem_cons] at hTokens
    exact .path hTokens.1.1 (readSegments_of_trail hTrail fun t ht => (hTokens.2 t ht).1)
  | emptyCall hName => exact .call (hTokens _ List.mem_cons_self).1 hName (by simp)
  | call hName _ ih =>
    simp only [List.cons_append, List.forall_mem_append, List.forall_mem_cons] at hTokens
    exact .call hTokens.1.1 hName (ih hTokens.2.2.1)
  | forEach hItem _ ih =>
    simp only [List.cons_append, List.forall_mem_append, List.forall_mem_cons] at hTokens
    have hArgs := ih hTokens.2.2.1
    simp only [EmittedPhrase, List.forall_mem_cons] at hArgs
    exact .forEach (hArgs.1.identifier_of_plain hItem) (by simp) hArgs.2.1 hArgs.2.2.1
  | forEachIndexed hItem hIndex _ ih =>
    simp only [List.cons_append, List.forall_mem_append, List.forall_mem_cons] at hTokens
    have hArgs := ih hTokens.2.2.1
    simp only [EmittedPhrase, List.forall_mem_cons] at hArgs
    refine .forEach (hArgs.1.identifier_of_plain hItem) ?_ hArgs.2.2.1 hArgs.2.2.2.1
    rintro name ⟨⟩
    exact hArgs.2.1.identifier_of_plain hIndex
  | lastArgument _ ih =>
    intro p hp
    obtain rfl := List.mem_singleton.mp hp
    exact ih hTokens
  | moreArguments _ _ iht ihu =>
    simp only [List.forall_mem_append, List.forall_mem_cons] at hTokens
    intro p hp
    rcases List.mem_cons.mp hp with rfl | hp
    · exact iht hTokens.1
    · exact ihu hTokens.2.2 p hp

end TextTemplate
