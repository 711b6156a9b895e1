import TextTemplate.Proofs.Parser.Brackets

/-!
# The grammar of expressions

`Derives` relates a run of tokens to what it is read as, by the rules

    ternary    = coalesce ("?" ternary ":" ternary)?
    coalesce   = comparison ("??" coalesce)?
    comparison = operand (op operand)?
    operand    = "(" ternary ")" | literal | "-" number | call | forEach | path

Conditionals are read as calls of `if`, comparisons as calls of the function of their operator;
parentheses leave nothing behind. Its parameter says which runs of tokens may stand on the left of
`??` and count as null: none in the strict grammar (`NoRecovery`), those that the search for `??`
passes over in the language that the parser accepts (`Skipped`).

* `Derives.strict`: recovery needs a `??`.
* `Derives.nestedWith`: a derived run is properly nested, and outside of its brackets stand only
  tokens of its own rules.
* `Derives.inside`: a derivation that starts inside of a nested run stays inside, and recovers
  nested runs only.
-/

namespace TextTemplate

/-- The token of a comparison operator. -/
def Comparison.token : Comparison → Token
  | .eq => .eq
  | .ne => .ne
  | .lt => .lt
  | .le => .le
  | .gt => .gt
  | .ge => .ge

/-- What a run of tokens is read as. -/
inductive Phrase
  | ternary (p : Part)
  | coalesce (p : Part)
  | comparison (p : Part)
  | operand (p : Part)
  | arguments (ps : List Part)

namespace Grammar

open TextTemplate.Parser

/-- A token that names a field. -/
inductive Field : Token → String → Prop
  | name (s : String) : Field (.name s) s
  | yes : Field (.boolean true) "true"
  | no : Field (.boolean false) "false"
  | null : Field .null "null"

/-- The fields and indices after the root of a path. An index is a whole number that is not
negative; one beyond the bound of indices stands for the largest. -/
inductive Trail : List Token → Path → Prop
  | nil : Trail [] []
  | field {t : Token} {name : String} {ts : List Token} {path : Path} :
      Field t name → Trail ts path → Trail (.dot :: t :: ts) (.key name :: path)
  | index {x : Number} {n : Nat} {ts : List Token} {path : Path} :
      x.whole? = some (n : Int) → Trail ts path →
      Trail (.leftBracket :: .number x :: .rightBracket :: ts)
        (.index (min n (Path.indexLimit - 1)) :: path)

/-- The path of a variable without fields and indices. -/
def PlainName (path : String) : Prop := ∀ c ∈ path.toList, c ≠ '.' ∧ c ≠ '['

inductive Derives (garbled : List Token → Prop) : List Token → Phrase → Prop
  | conditional {c y n : List Token} {condition yes no : Part} :
      Derives garbled c (.coalesce condition) → Derives garbled y (.ternary yes) →
      Derives garbled n (.ternary no) →
      Derives garbled (c ++ .question :: (y ++ .colon :: n))
        (.ternary (.ternary condition yes no))
  | unconditional {ts : List Token} {p : Part} :
      Derives garbled ts (.coalesce p) → Derives garbled ts (.ternary p)
  | coalesce {l r : List Token} {left right : Part} :
      Derives garbled l (.comparison left) → Derives garbled r (.coalesce right) →
      Derives garbled (l ++ .coalesce :: r) (.coalesce (.coalesce left right))
  | recovered {l r : List Token} {right : Part} :
      garbled l → Derives garbled r (.coalesce right) →
      Derives garbled (l ++ .coalesce :: r) (.coalesce (.coalesce (.literal .null) right))
  | single {ts : List Token} {p : Part} :
      Derives garbled ts (.comparison p) → Derives garbled ts (.coalesce p)
  | comparison {l r : List Token} {left right : Part} (op : Comparison) :
      Derives garbled l (.operand left) → Derives garbled r (.operand right) →
      Derives garbled (l ++ op.token :: r) (.comparison (.compare left op right))
  | uncompared {ts : List Token} {p : Part} :
      Derives garbled ts (.operand p) → Derives garbled ts (.comparison p)
  | parentheses {ts : List Token} {p : Part} :
      Derives garbled ts (.ternary p) →
      Derives garbled (.leftParen :: ts ++ [.rightParen]) (.operand p)
  | number (x : Number) : Derives garbled [.number x] (.operand (.literal (.number x)))
  | negative (x : Number) :
      Derives garbled [.minus, .number x] (.operand (.literal (.number x.neg)))
  | text (s : String) : Derives garbled [.text s] (.operand (.literal (.text s)))
  | boolean (b : Bool) : Derives garbled [.boolean b] (.operand (.literal (.boolean b)))
  | null : Derives garbled [.null] (.operand (.literal .null))
  | path {root : String} {ts : List Token} {path : Path} :
      Trail ts path →
      Derives garbled (.name root :: ts)
        (.operand (.variable (String.ofList (Path.join (.key root :: path)))))
  | emptyCall {function : String} :
      function ≠ "forEach" →
      Derives garbled [.name function, .leftParen, .rightParen] (.operand (.call function []))
  | call {function : String} {ts : List Token} {args : List Part} :
      function ≠ "forEach" → Derives garbled ts (.arguments args) →
      Derives garbled (.name function :: (.leftParen :: ts ++ [.rightParen]))
        (.operand (.call function args))
  | forEach {item : String} {ts : List Token} {collection body : Part} :
      PlainName item → Derives garbled ts (.arguments [.variable item, collection, body]) →
      Derives garbled (.name "forEach" :: (.leftParen :: ts ++ [.rightParen]))
        (.operand (.forEach item none collection body))
  | forEachIndexed {item index : String} {ts : List Token} {collection body : Part} :
      PlainName item → PlainName index →
      Derives garbled ts (.arguments [.variable item, .variable index, collection, body]) →
      Derives garbled (.name "forEach" :: (.leftParen :: ts ++ [.rightParen]))
        (.operand (.forEach item (some index) collection body))
  | lastArgument {ts : List Token} {p : Part} :
      Derives garbled ts (.ternary p) → Derives garbled ts (.arguments [p])
  | moreArguments {ts us : List Token} {p : Part} {ps : List Part} :
      Derives garbled ts (.ternary p) → Derives garbled us (.arguments ps) →
      Derives garbled (ts ++ .comma :: us) (.arguments (p :: ps))

/-- The strict grammar recovers from nothing. -/
def NoRecovery : List Token → Prop := fun _ => False

theorem Derives.ne_nil {garbled : List Token → Prop} {ts : List Token} {φ : Phrase}
    (h : Derives garbled ts φ) : ts ≠ [] := by
  induction h <;> simp_all

/-- Recovery needs a `??`. -/
theorem Derives.strict {garbled : List Token → Prop} {ts : List Token} {φ : Phrase}
    (h : Derives garbled ts φ) (hCoalesce : .coalesce ∉ ts) : Derives NoRecovery ts φ := by
  induction h with
  | conditional _ _ _ ihc ihy ihn =>
    simp only [List.mem_append, List.mem_cons, not_or] at hCoalesce
    exact .conditional (ihc hCoalesce.1) (ihy hCoalesce.2.2.1) (ihn hCoalesce.2.2.2.2)
  | unconditional _ ih => exact .unconditional (ih hCoalesce)
  | coalesce => simp at hCoalesce
  | recovered => simp at hCoalesce
  | single _ ih => exact .single (ih hCoalesce)
  | comparison op _ _ ihl ihr =>
    simp only [List.mem_append, List.mem_cons, not_or] at hCoalesce
    exact .comparison op (ihl hCoalesce.1) (ihr hCoalesce.2.2)
  | uncompared _ ih => exact .uncompared (ih hCoalesce)
  | parentheses _ ih => exact .parentheses (ih (by simp_all))
  | number x => exact .number x
  | negative x => exact .negative x
  | text s => exact .text s
  | boolean b => exact .boolean b
  | null => exact .null
  | path hTrail => exact .path hTrail
  | emptyCall hName => exact .emptyCall hName
  | call hName _ ih => exact .call hName (ih (by simp_all))
  | forEach hItem _ ih => exact .forEach hItem (ih (by simp_all))
  | forEachIndexed hItem hIndex _ ih => exact .forEachIndexed hItem hIndex (ih (by simp_all))
  | lastArgument _ ih => exact .lastArgument (ih hCoalesce)
  | moreArguments _ _ iht ihu =>
    simp only [List.mem_append, List.mem_cons, not_or] at hCoalesce
    exact .moreArguments (iht hCoalesce.1) (ihu hCoalesce.2.2)

/-! ## Tokens that belong to no rule -/

/-- Does the token stand in a rule? -/
def inRules : Token → Bool
  | .finish | .unknown _ => false
  | _ => true

theorem Trail.forall_mem {ts : List Token} {path : Path} {p : Token → Prop}
    (hRules : ∀ t, inRules t = true → p t) (h : Trail ts path) :
    ∀ t ∈ ts, p t := by
  induction h with
  | nil => simp
  | field hField _ ih =>
    simp only [List.forall_mem_cons]
    refine ⟨hRules _ rfl, ?_, ih⟩
    cases hField <;> exact hRules _ rfl
  | index _ _ ih =>
    simp only [List.forall_mem_cons]
    exact ⟨hRules _ rfl, hRules _ rfl, hRules _ rfl, ih⟩

/-- What holds of all tokens that stand in rules, and of the runs that are recovered from, holds of
derived runs. -/
theorem Derives.forall_mem {garbled : List Token → Prop} {ts : List Token} {φ : Phrase}
    {p : Token → Prop} (hRules : ∀ t, inRules t = true → p t)
    (hGarbled : ∀ g, garbled g → ∀ t ∈ g, p t) (h : Derives garbled ts φ) : ∀ t ∈ ts, p t := by
  induction h with
  | conditional _ _ _ ihc ihy ihn =>
    simp only [List.forall_mem_append, List.forall_mem_cons]
    exact ⟨ihc, hRules _ rfl, ihy, hRules _ rfl, ihn⟩
  | coalesce _ _ ihl ihr | moreArguments _ _ ihl ihr =>
    simp only [List.forall_mem_append, List.forall_mem_cons]
    exact ⟨ihl, hRules _ rfl, ihr⟩
  | recovered hl _ ihr =>
    simp only [List.forall_mem_append, List.forall_mem_cons]
    exact ⟨hGarbled _ hl, hRules _ rfl, ihr⟩
  | comparison op _ _ ihl ihr =>
    simp only [List.forall_mem_append, List.forall_mem_cons]
    exact ⟨ihl, hRules _ (by cases op <;> rfl), ihr⟩
  | unconditional _ ih | single _ ih | uncompared _ ih | lastArgument _ ih => exact ih
  | parentheses _ ih =>
    simp only [List.cons_append, List.forall_mem_append, List.forall_mem_cons]
    exact ⟨hRules _ rfl, ih, hRules _ rfl, by simp⟩
  | number | text | boolean | null =>
    simp only [List.forall_mem_cons]
    exact ⟨hRules _ rfl, by simp⟩
  | negative =>
    simp only [List.forall_mem_cons]
    exact ⟨hRules _ rfl, hRules _ rfl, by simp⟩
  | path hTrail =>
    simp only [List.forall_mem_cons]
    exact ⟨hRules _ rfl, hTrail.forall_mem hRules⟩
  | emptyCall =>
    simp only [List.forall_mem_cons]
    exact ⟨hRules _ rfl, hRules _ rfl, hRules _ rfl, by simp⟩
  | call _ _ ih | forEach _ _ ih | forEachIndexed _ _ _ ih =>
    simp only [List.cons_append, List.forall_mem_append, List.forall_mem_cons]
    exact ⟨hRules _ rfl, hRules _ rfl, ih, hRules _ rfl, by simp⟩

/-- The end mark belongs to no derivation. -/
theorem Derives.finish_not_mem {garbled : List Token → Prop} {ts : List Token} {φ : Phrase}
    (hGarbled : ∀ g, garbled g → .finish ∉ g) (h : Derives garbled ts φ) : .finish ∉ ts := by
  have hAll : ∀ t ∈ ts, t ≠ .finish := by
    refine h.forall_mem (fun t hRule => ?_) fun g hg t ht => ?_
    · rintro rfl
      cases hRule
    · rintro rfl
      exact hGarbled g hg ht
  exact fun hMem => hAll _ hMem rfl

/-- A character that starts no token belongs to no strict derivation. -/
theorem Derives.ne_unknown {ts : List Token} {φ : Phrase} (h : Derives NoRecovery ts φ)
    {t : Token} (ht : t ∈ ts) (c : Char) : t ≠ .unknown c := by
  have hRule := h.forall_mem (fun _ hRule => hRule) (fun _ hg => hg.elim) t ht
  rintro rfl
  cases hRule

/-! ## Both ends -/

/-- Does the token stand between two phrases? -/
def isInfix : Token → Bool
  | .question | .colon | .coalesce | .comma | .eq | .ne | .lt | .le | .gt | .ge => true
  | _ => false

theorem Trail.isInfix_last {ts : List Token} {path : Path} {t : Token} (h : Trail ts path)
    (ht : ts.getLast? = some t) : isInfix t = false := by
  induction h with
  | nil => cases ht
  | @field t' name ts path hField hTrail ih =>
    cases ts with
    | nil =>
      cases ht
      cases hField <;> rfl
    | cons t'' ts => exact ih (by simpa using ht)
  | @index x n ts path hWhole hTrail ih =>
    cases ts with
    | nil =>
      cases ht
      rfl
    | cons t' ts => exact ih (by simpa using ht)

/-- A phrase that is read without recovery starts with no operator. -/
theorem Derives.isInfix_head {ts : List Token} {φ : Phrase} {t : Token}
    (h : Derives NoRecovery ts φ) (ht : ts.head? = some t) : isInfix t = false := by
  induction h with
  | conditional hc _ _ ih | coalesce hc _ ih | comparison _ hc _ ih | moreArguments hc _ ih =>
    obtain ⟨first, others, rfl⟩ := List.exists_cons_of_ne_nil hc.ne_nil
    exact ih ht
  | recovered hl => exact hl.elim
  | unconditional _ ih | single _ ih | uncompared _ ih | lastArgument _ ih => exact ih ht
  | _ =>
    cases ht
    rfl

theorem getLast?_between {ts us : List Token} {t : Token} (hus : us ≠ []) :
    (ts ++ t :: us).getLast? = us.getLast? := by
  rw [List.getLast?_append, List.getLast?_cons_of_ne_nil hus, List.getLast?_eq_some_getLast hus,
    Option.some_or]

/-- A phrase that is read without recovery ends with no operator. -/
theorem Derives.isInfix_last {ts : List Token} {φ : Phrase} {t : Token}
    (h : Derives NoRecovery ts φ) (ht : ts.getLast? = some t) : isInfix t = false := by
  induction h with
  | conditional _ _ hn _ _ ih =>
    rw [getLast?_between (by simp), getLast?_between hn.ne_nil] at ht
    exact ih ht
  | coalesce _ hr _ ih | comparison _ _ hr _ ih | moreArguments _ hr _ ih =>
    rw [getLast?_between hr.ne_nil] at ht
    exact ih ht
  | recovered hl => exact hl.elim
  | unconditional _ ih | single _ ih | uncompared _ ih | lastArgument _ ih => exact ih ht
  | @path root ts path hTrail =>
    cases ts with
    | nil =>
      cases ht
      rfl
    | cons t' ts => exact hTrail.isInfix_last (by simpa using ht)
  | parentheses | call | forEach | forEachIndexed =>
    simp only [List.cons_append, List.getLast?_cons, List.getLast?_append, List.getLast?_nil,
      Option.getD_none, Option.some_or, Option.getD_some, Option.some.injEq] at ht
    subst ht
    rfl
  | _ =>
    cases ht
    rfl

/-! ## Nesting -/

/-- The loosest tokens that a phrase holds outside of brackets. -/
def bound : Phrase → Nat
  | .operand _ | .comparison _ => 0
  | .coalesce _ => 1
  | .ternary _ => 2
  | .arguments _ => 3

theorem Trail.nestedWith {ts : List Token} {path : Path} (h : Trail ts path) :
    NestedWith (upTo 0) ts := by
  induction h with
  | nil => exact NestedWith.nil _
  | field hField _ ih =>
    refine NestedWith.cons rfl rfl rfl ?_
    cases hField <;> exact NestedWith.cons rfl rfl rfl ih
  | @index x n ts path _ _ ih =>
    have hNumber : NestedWith (upTo 0) [.number x] :=
      NestedWith.cons rfl rfl rfl (NestedWith.nil _)
    have hIndex : NestedWith (upTo 0) [.leftBracket, .number x, .rightBracket] :=
      hNumber.enclosed rfl
    exact hIndex.append ih

/-- A derived run is properly nested, and outside of its brackets stand only tokens of its own
rules, if that holds of the runs it recovers from. -/
theorem Derives.nestedWith {garbled : List Token → Prop} {ts : List Token} {φ : Phrase}
    (hGarbled : ∀ g, garbled g → NestedWith (upTo 0) g) (h : Derives garbled ts φ) :
    NestedWith (upTo (bound φ)) ts := by
  induction h with
  | conditional _ _ _ ihc ihy ihn =>
    exact (ihc.loosen (by simp [bound])).append
      (.cons rfl rfl rfl (ihy.append (.cons rfl rfl rfl ihn)))
  | unconditional _ ih => exact ih.loosen (by simp [bound])
  | coalesce _ _ ihl ihr =>
    exact (ihl.loosen (by simp [bound])).append (.cons rfl rfl rfl ihr)
  | recovered hl _ ihr =>
    exact ((hGarbled _ hl).loosen (by simp [bound])).append (.cons rfl rfl rfl ihr)
  | single _ ih => exact ih.loosen (by simp [bound])
  | comparison op _ _ ihl ihr =>
    refine ihl.append ?_
    cases op <;> exact .cons rfl rfl rfl ihr
  | uncompared _ ih => exact ih
  | parentheses _ ih => exact ih.enclosed rfl
  | number | text | boolean | null => exact .cons rfl rfl rfl (NestedWith.nil _)
  | negative => exact .cons rfl rfl rfl (.cons rfl rfl rfl (NestedWith.nil _))
  | path hTrail => exact .cons rfl rfl rfl hTrail.nestedWith
  | emptyCall =>
    have hParens : NestedWith (upTo 0) [.leftParen, .rightParen] := rfl
    exact .cons rfl rfl rfl hParens
  | call _ _ ih | forEach _ _ ih | forEachIndexed _ _ _ ih =>
    exact .cons rfl rfl rfl (ih.enclosed rfl)
  | lastArgument _ ih => exact ih.loosen (by simp [bound])
  | moreArguments _ _ iht ihu =>
    exact (iht.loosen (by simp [bound])).append (.cons rfl rfl rfl ihu)

/-! ## Staying inside -/

/-- A properly nested operand of `??`, readable or not. -/
def NestedOperand (ts : List Token) : Prop := NestedWith (upTo 0) ts

theorem upTo_false_of_le {m n : Nat} {t : Token} (h : upTo n t = false) (hLe : m ≤ n) :
    upTo m t = false := by
  simp only [upTo, decide_eq_false_iff_not] at h ⊢
  omega

theorem ne_of_upTo {n : Nat} {t stop : Token} (ht : upTo n t = true)
    (hStop : upTo n stop = false) : t ≠ stop := by
  rintro rfl
  rw [ht] at hStop
  cases hStop

theorem closer?_eq_none_of_upTo {n : Nat} {t : Token} (h : upTo n t = false) :
    closer? t = none := by
  cases t <;> first | rfl | simp [upTo, looseness] at h

/-- A nested run that starts inside of another one stays inside, unless it can hold the token after
it outside of brackets. -/
theorem nestedWith_inside {n : Nat} {ts rest inside tail : List Token} {stop : Token}
    (h : NestedWith (upTo n) ts) (hEq : ts ++ rest = inside ++ stop :: tail)
    (hInside : Nested inside) (hStop : upTo n stop = false) :
    ∃ after, inside = ts ++ after ∧ rest = after ++ stop :: tail ∧ Nested after := by
  rcases List.append_eq_append_iff.mp hEq with ⟨after, rfl, rfl⟩ | ⟨after, rfl, hTail⟩
  · exact ⟨after, rfl, rfl, hInside.right h⟩
  · cases after with
    | nil => exact ⟨[], by simp, hTail.symm, rfl⟩
    | cons t after =>
      obtain ⟨rfl, -⟩ := List.cons.inj hTail
      have hRest := (h.right hInside).of_cons.2 (closer?_eq_none_of_upTo hStop)
      rw [hRest.1] at hStop
      cases hStop

theorem token_inside {n : Nat} {t stop : Token} {us inside tail : List Token}
    (hEq : t :: us = inside ++ stop :: tail) (hInside : Nested inside)
    (ht : upTo n t = true) (hStop : upTo n stop = false) (hCloser : closer? t = none) :
    ∃ after, us = after ++ stop :: tail ∧ Nested after := by
  cases inside with
  | nil => exact absurd (List.cons.inj hEq).1 (ne_of_upTo ht hStop)
  | cons t' inside =>
    obtain ⟨rfl, hTail⟩ := List.cons.inj hEq
    exact ⟨inside, hTail, (hInside.of_cons.2 hCloser).2⟩

/-- What starts behind an opening parenthesis inside of a nested run ends inside of it too. -/
theorem parens_inside {n : Nat} {stop : Token} {us inside tail : List Token}
    (hEq : .leftParen :: us = inside ++ stop :: tail) (hInside : Nested inside)
    (hStop : upTo n stop = false) :
    ∃ enclosed after, us = enclosed ++ .rightParen :: after ∧ Nested enclosed := by
  cases inside with
  | nil => exact absurd (List.cons.inj hEq).1 (ne_of_upTo (by simp [upTo, looseness]) hStop)
  | cons t inside =>
    obtain ⟨rfl, hTail⟩ := List.cons.inj hEq
    obtain ⟨enclosed, after, rfl, hEnclosed, -⟩ := hInside.of_opening rfl
    exact ⟨enclosed, after ++ stop :: tail, by simpa using hTail, hEnclosed⟩

theorem Derives.split_inside {ts rest inside tail : List Token} {stop : Token} {φ : Phrase}
    (h : Derives NestedOperand ts φ) (hEq : ts ++ rest = inside ++ stop :: tail)
    (hInside : Nested inside) (hStop : upTo (bound φ) stop = false) :
    ∃ after, inside = ts ++ after ∧ rest = after ++ stop :: tail ∧ Nested after :=
  nestedWith_inside (h.nestedWith fun _ hg => hg) hEq hInside hStop

/-- What follows a phrase and the token behind it starts inside of the nested run too. -/
theorem Derives.next_inside {n : Nat} {ts us inside tail : List Token} {t stop : Token} {φ : Phrase}
    (h : Derives NestedOperand ts φ) (hEq : ts ++ t :: us = inside ++ stop :: tail)
    (hInside : Nested inside) (hTight : upTo (bound φ) stop = false) (ht : upTo n t = true)
    (hStop : upTo n stop = false) (hCloser : closer? t = none) :
    ∃ after, us = after ++ stop :: tail ∧ Nested after := by
  obtain ⟨after, -, hAfter, hNested⟩ := h.split_inside hEq hInside hTight
  exact token_inside hAfter hNested ht hStop hCloser

/-- What starts in the parentheses of a call ends in front of the closing one. -/
theorem call_inside {n : Nat} {name : String} {ts rest inside tail : List Token} {stop : Token}
    (hEq : (.name name :: (.leftParen :: ts ++ [.rightParen])) ++ rest = inside ++ stop :: tail)
    (hInside : Nested inside) (hStop : upTo n stop = false) :
    ∃ enclosed after, ts ++ .rightParen :: rest = enclosed ++ .rightParen :: after
      ∧ Nested enclosed := by
  simp only [List.append_assoc, List.cons_append, List.nil_append] at hEq
  obtain ⟨after, hEq, hInside⟩ :=
    token_inside hEq hInside (by simp [upTo, looseness]) hStop rfl
  exact parens_inside hEq hInside hStop

/-- A derivation that starts inside of a nested run, and cannot use the token after it outside of
brackets, recovers nested operands only. -/
theorem Derives.inside {ts rest inside tail : List Token} {stop : Token} {φ : Phrase}
    (h : Derives Skipped ts φ) (hEq : ts ++ rest = inside ++ stop :: tail)
    (hInside : Nested inside) (hStop : upTo (bound φ) stop = false) :
    Derives NestedOperand ts φ := by
  have hClosing : ∀ ψ : Phrase, upTo (bound ψ) .rightParen = false := by
    rintro (_ | _ | _ | _ | _) <;> rfl
  induction h generalizing rest inside tail stop with
  | conditional _ _ _ ihc ihy ihn =>
    simp only [List.append_assoc, List.cons_append] at hEq
    have hTight := upTo_false_of_le hStop (show 1 ≤ 2 by decide)
    have hc := ihc hEq hInside hTight
    obtain ⟨after, hEq, hInside⟩ := hc.next_inside hEq hInside hTight rfl hStop rfl
    have hy := ihy hEq hInside hStop
    obtain ⟨after, hEq, hInside⟩ := hy.next_inside hEq hInside hStop rfl hStop rfl
    exact .conditional hc hy (ihn hEq hInside hStop)
  | unconditional _ ih =>
    exact .unconditional (ih hEq hInside (upTo_false_of_le hStop (show 1 ≤ 2 by decide)))
  | coalesce _ _ ihl ihr =>
    simp only [List.append_assoc, List.cons_append] at hEq
    have hTight := upTo_false_of_le hStop (show 0 ≤ 1 by decide)
    have hl := ihl hEq hInside hTight
    obtain ⟨after, hEq, hInside⟩ := hl.next_inside hEq hInside hTight rfl hStop rfl
    exact .coalesce hl (ihr hEq hInside hStop)
  | recovered hl _ ihr =>
    -- The search for `??` counts brackets of both kinds together; in a nested run it cannot leave.
    simp only [List.append_assoc, List.cons_append] at hEq
    have hEnds : endsOperand stop = true := by
      simpa [upTo_zero] using upTo_false_of_le hStop (show 0 ≤ 1 by decide)
    obtain ⟨after, rfl, hTail, hNested⟩ :=
      nested_of_depthAfter? [] hl hInside hEq hEnds (ne_of_upTo rfl hStop).symm
    have hAfter := ((hInside.right (NestedWith.nested hNested)).of_cons.2 rfl).2
    exact .recovered hNested (ihr hTail hAfter hStop)
  | single _ ih =>
    exact .single (ih hEq hInside (upTo_false_of_le hStop (show 0 ≤ 1 by decide)))
  | comparison op _ _ ihl ihr =>
    simp only [List.append_assoc, List.cons_append] at hEq
    have hl := ihl hEq hInside hStop
    obtain ⟨after, hEq, hInside⟩ :=
      hl.next_inside hEq hInside hStop (by cases op <;> rfl) hStop (by cases op <;> rfl)
    exact .comparison op hl (ihr hEq hInside hStop)
  | uncompared _ ih => exact .uncompared (ih hEq hInside hStop)
  | parentheses _ ih =>
    simp only [List.append_assoc, List.cons_append] at hEq
    obtain ⟨enclosed, after, hEq, hEnclosed⟩ := parens_inside hEq hInside hStop
    exact .parentheses (ih hEq hEnclosed (hClosing _))
  | number x => exact .number x
  | negative x => exact .negative x
  | text s => exact .text s
  | boolean b => exact .boolean b
  | null => exact .null
  | path hTrail => exact .path hTrail
  | emptyCall hName => exact .emptyCall hName
  | call hName _ ih =>
    obtain ⟨enclosed, after, hEq, hEnclosed⟩ := call_inside hEq hInside hStop
    exact .call hName (ih hEq hEnclosed (hClosing _))
  | forEach hItem _ ih =>
    obtain ⟨enclosed, after, hEq, hEnclosed⟩ := call_inside hEq hInside hStop
    exact .forEach hItem (ih hEq hEnclosed (hClosing _))
  | forEachIndexed hItem hIndex _ ih =>
    obtain ⟨enclosed, after, hEq, hEnclosed⟩ := call_inside hEq hInside hStop
    exact .forEachIndexed hItem hIndex (ih hEq hEnclosed (hClosing _))
  | lastArgument _ ih =>
    exact .lastArgument (ih hEq hInside (upTo_false_of_le hStop (show 2 ≤ 3 by decide)))
  | moreArguments _ _ iht ihu =>
    simp only [List.append_assoc, List.cons_append] at hEq
    have hTight := upTo_false_of_le hStop (show 2 ≤ 3 by decide)
    have ht := iht hEq hInside hTight
    obtain ⟨after, hEq, hInside⟩ := ht.next_inside hEq hInside hTight rfl hStop rfl
    exact .moreArguments ht (ihu hEq hInside hStop)

/-! ## Calls and their arguments -/

/-- A run without operators outside of brackets is derived as an operand. -/
theorem Derives.operand_of_nestedWith {allowed : Token → Bool} {ts : List Token} {p : Part}
    (hAllowed : ∀ t, isInfix t = true → allowed t = false) (hts : NestedWith allowed ts)
    (h : Derives NestedOperand ts (.ternary p)) : Derives NestedOperand ts (.operand p) := by
  have hNested {us : List Token} {φ : Phrase} (h : Derives NestedOperand us φ) :=
    h.nestedWith fun _ hg => hg
  have hNone {l r : List Token} {t : Token} {n : Nat} (hEq : ts = l ++ t :: r)
      (hl : NestedWith (upTo n) l) (hCloser : closer? t = none) (ht : isInfix t = true) :
      False := by
    subst hEq
    have hOutside := hts.infix_allowed hl hCloser
    rw [hAllowed t ht] at hOutside
    cases hOutside
  cases h with
  | conditional hc => exact (hNone rfl (hNested hc) rfl rfl).elim
  | unconditional h =>
    cases h with
    | coalesce hl => exact (hNone rfl (hNested hl) rfl rfl).elim
    | recovered hl => exact (hNone rfl hl rfl rfl).elim
    | single h =>
      cases h with
      | comparison op hl =>
        exact (hNone rfl (hNested hl) (by cases op <;> rfl) (by cases op <;> rfl)).elim
      | uncompared h => exact h

theorem Derives.arguments_of_call {garbled : List Token → Prop} {name : String}
    {inside : List Token} {p : Part} (hSome : inside ≠ [])
    (h : Derives garbled (.name name :: (.leftParen :: inside ++ [.rightParen])) (.operand p)) :
    ∃ args, Derives garbled inside (.arguments args) := by
  generalize hts : Token.name name :: (.leftParen :: inside ++ [.rightParen]) = ts at h
  cases h with
  | path hTrail =>
    cases hts
    cases hTrail
  | emptyCall =>
    obtain ⟨-, hParens⟩ := List.cons.inj hts
    obtain ⟨-, hInside⟩ := List.cons.inj hParens
    exact absurd (List.append_left_eq_self.mp hInside) hSome
  | call _ hArgs | forEach _ hArgs | forEachIndexed _ _ hArgs =>
    obtain ⟨-, hParens⟩ := List.cons.inj hts
    obtain ⟨-, hInside⟩ := List.cons.inj hParens
    exact ⟨_, List.append_cancel_right hInside ▸ hArgs⟩
  | _ => cases hts

/-- Arguments with `,` between them. -/
def separated (args : List (List Token)) : List Token := [Token.comma].intercalate args

theorem separated_singleton (a : List Token) : separated [a] = a := by
  simp [separated, List.intercalate]

theorem separated_cons_cons (a b : List Token) (args : List (List Token)) :
    separated (a :: b :: args) = a ++ .comma :: separated (b :: args) := rfl

/-- What holds of all arguments, and of two runs with `,` between them, holds of them all. -/
theorem separated_induction {P : List Token → Prop} {args : List (List Token)} (hNil : P [])
    (hJoin : ∀ a b, P a → P b → P (a ++ .comma :: b)) (hArgs : ∀ a ∈ args, P a) :
    P (separated args) := by
  induction args with
  | nil => exact hNil
  | cons a args ih =>
    have ha := hArgs a List.mem_cons_self
    have hRest := ih fun b hb => hArgs b (List.mem_cons_of_mem _ hb)
    cases args with
    | nil => rwa [separated_singleton]
    | cons b args => exact hJoin _ _ ha hRest

/-- Without `,` outside of their brackets, arguments are derived one by one. -/
theorem Derives.argument_of_mem {args : List (List Token)} {ps : List Part}
    (hArgs : ∀ a ∈ args, NestedWith (fun t => t ≠ .comma) a)
    (h : Derives NestedOperand (separated args) (.arguments ps)) {a : List Token}
    (ha : a ∈ args) : ∃ p, Derives NestedOperand a (.ternary p) := by
  have hNoComma {l r : List Token} {n : Nat} (hEq : l ++ .comma :: r ∈ args)
      (hl : NestedWith (upTo n) l) : False := by
    simpa using (hArgs _ hEq).infix_allowed hl rfl
  induction args generalizing ps with
  | nil => cases ha
  | cons b args ih =>
    have hb := hArgs b List.mem_cons_self
    cases args with
    | nil =>
      obtain rfl := List.mem_singleton.mp ha
      rw [separated_singleton] at h
      cases h with
      | lastArgument h => exact ⟨_, h⟩
      | moreArguments hFirst _ =>
        exact (hNoComma List.mem_cons_self (hFirst.nestedWith fun _ hg => hg)).elim
    | cons c args =>
      rw [separated_cons_cons] at h
      generalize hEq : b ++ .comma :: separated (c :: args) = ts at h
      cases h with
      | lastArgument h =>
        have hNested := h.nestedWith fun _ hg => hg
        rw [← hEq] at hNested
        cases hNested.infix_allowed hb rfl
      | moreArguments hFirst hMore =>
        -- The first argument that is read ends where the first one of the list does.
        obtain ⟨after, rfl, hAfter, -⟩ := hFirst.split_inside hEq.symm hb.nested rfl
        cases after with
        | nil =>
          obtain ⟨-, rfl⟩ := List.cons.inj hAfter
          rw [List.append_nil] at ha
          rcases List.mem_cons.mp ha with rfl | ha
          · exact ⟨_, hFirst⟩
          · exact ih (fun d hd => hArgs d (List.mem_cons_of_mem _ hd)) hMore ha
              fun hd => hNoComma (List.mem_cons_of_mem _ hd)
        | cons t after =>
          obtain ⟨rfl, -⟩ := List.cons.inj hAfter
          exact (hNoComma List.mem_cons_self (hFirst.nestedWith fun _ hg => hg)).elim

end Grammar

end TextTemplate
