import TextTemplate.Proofs.Evaluation.Steps
import TextTemplate.Proofs.Library.Registration
import TextTemplate.Proofs.Parser.Recognition

/-!
# Conditionals and connectives evaluate all of their arguments

Conditionals, `and` and `or` are calls of ordinary functions, and the arguments of a call are
evaluated from left to right before the function is looked up. So a branch that is not taken, or an
argument behind the deciding one, does not change the result as long as it has a value; but one that
fails makes the whole fail.

* `Registry.Decides`: the deciding arguments alone count, if the others are as they must be.
* `not_decides_missing`: others that fail do count.
* `decides_of_values`: others that have values do not, in every registry with the logical functions.
* `expression_conditional`: a conditional and a call of `if` are read as the same part.
* `connectives_need_values`: these, and the fault that the first argument without a value gives.
-/

namespace TextTemplate

open Grammar
open TextTemplate.Parser (tokens)

/-- What conditionals and connectives evaluate to by their deciding arguments alone; `harmless` says
which other arguments may stand beside them. -/
structure Registry.Decides (registry : Registry) (harmless : Scope → List Part → Prop) : Prop where
  yes (s : Scope) (condition a b : Part) (v : Value) :
    condition.evaluate registry s = .ok v → v.isTruthy = true → harmless s [b] →
      (Part.ternary condition a b).evaluate registry s = a.evaluate registry s
  no (s : Scope) (condition a b : Part) (v : Value) :
    condition.evaluate registry s = .ok v → v.isTruthy = false → harmless s [a] →
      (Part.ternary condition a b).evaluate registry s = b.evaluate registry s
  /-- The first falsy argument decides. -/
  and (s : Scope) (before after : List Part) (arg : Part) (values : List Value) (v : Value) :
    Part.evaluateAll registry before s = .ok values → (∀ u ∈ values, u.isTruthy = true) →
      arg.evaluate registry s = .ok v → v.isTruthy = false → harmless s after →
        (Part.call "and" (before ++ arg :: after)).evaluate registry s = .ok (.boolean false)
  /-- The first truthy argument decides. -/
  or (s : Scope) (before after : List Part) (arg : Part) (values : List Value) (v : Value) :
    Part.evaluateAll registry before s = .ok values → (∀ u ∈ values, u.isTruthy = false) →
      arg.evaluate registry s = .ok v → v.isTruthy = true → harmless s after →
        (Part.call "or" (before ++ arg :: after)).evaluate registry s = .ok (.boolean true)

theorem Library.offers_logic (clock : Calendar.DateTime) : (registry clock).Offers logic :=
  (offers_registry clock).mono fun b hb =>
    List.mem_flatMap.mpr ⟨("logic", logic), by simp [catalogue], hb⟩

/-- A branch that is not taken and an argument that is not needed fail nevertheless. -/
theorem Registry.not_decides_missing :
    let registry := Library.registry ⟨⟨0⟩, .midnight⟩
    let s := Scope.ofContext []
    let yes : Part := .literal (.boolean true)
    let no : Part := .literal (.boolean false)
    let missing : Part := .variable "missing"
    registry.Offers Library.logic ∧
      (Part.ternary yes no missing).evaluate registry s = .error (.variableNotFound "missing") ∧
      (Part.call "and" [no, missing]).evaluate registry s = .error (.variableNotFound "missing") ∧
      (Part.call "or" [yes, missing]).evaluate registry s = .error (.variableNotFound "missing") ∧
      ¬ registry.Decides fun _ _ => True := by
  intro registry s yes no missing
  have hConditional : (Part.ternary yes no missing).evaluate registry s
      = .error (.variableNotFound "missing") := rfl
  refine ⟨Library.offers_logic _, hConditional, rfl, rfl, fun hDecides => ?_⟩
  have hTaken := hDecides.yes s yes no missing (.boolean true) rfl rfl trivial
  rw [hConditional] at hTaken
  cases hTaken

/-! ## Calls -/

/-- A call of a function that is offered is a call of that function, with its name in faults. -/
theorem Registry.apply_of_function? {registry : Registry} {name : String} {function : Function}
    (h : registry.function? name = some function) (args : List Value) :
    registry.apply name args = (function args).mapError (.call name) := by
  unfold Registry.apply
  rw [h]
  dsimp only
  cases function args <;> rfl

theorem Registry.Offers.logic {registry : Registry} (h : registry.Offers Library.logic) :
    registry.function? "if" = some Library.ifThenElse ∧
      registry.function? "and" = some Library.and ∧
      registry.function? "or" = some Library.or ∧
      registry.function? "not" = some Library.not := by
  simpa [Registry.Offers, Library.logic] using h

section Calls

variable {registry : Registry} {s : Scope} {before after : List Part} {arg : Part}
  {values others : List Value} {v : Value}

namespace Part

theorem exists_evaluateAll {parts : List Part}
    (h : ∀ p ∈ parts, ∃ v, p.evaluate registry s = .ok v) :
    ∃ values, evaluateAll registry parts s = .ok values := by
  induction parts with
  | nil => exact ⟨[], rfl⟩
  | cons p parts ih =>
    obtain ⟨⟨v, hv⟩, hParts⟩ := List.forall_mem_cons.mp h
    obtain ⟨values, hValues⟩ := ih hParts
    refine ⟨v :: values, ?_⟩
    rw [evaluateAll_cons, hv, hValues]
    rfl

theorem evaluateAll_around (hBefore : evaluateAll registry before s = .ok values)
    (hArg : arg.evaluate registry s = .ok v) (hAfter : evaluateAll registry after s = .ok others) :
    evaluateAll registry (before ++ arg :: after) s = .ok (values ++ v :: others) := by
  rw [evaluateAll_append, hBefore, evaluateAll_cons, hArg, hAfter]
  rfl

theorem evaluate_call_of_ok (name : String) (h : evaluateAll registry before s = .ok values) :
    (Part.call name before).evaluate registry s = registry.apply name values := by
  rw [evaluate_call, h]
  rfl

/-- The first argument that fails makes a call fail, whatever stands around it. -/
theorem evaluate_call_of_error {f : EvalFault} (name : String) (after : List Part)
    (hBefore : evaluateAll registry before s = .ok values)
    (hArg : arg.evaluate registry s = .error f) :
    (Part.call name (before ++ arg :: after)).evaluate registry s = .error f := by
  rw [evaluate_call, evaluateAll_append, hBefore, evaluateAll_cons, hArg]
  rfl

end Part

end Calls

/-! ## Logical functions -/

section Logic

variable {registry : Registry} (h : registry.Offers Library.logic) {s : Scope}

include h

/-- A conditional evaluates both of its branches. -/
theorem Part.evaluate_ternary {condition : Part} {v : Value}
    (hCondition : condition.evaluate registry s = .ok v) (a b : Part) :
    (Part.ternary condition a b).evaluate registry s = (do
      let x ← a.evaluate registry s
      let y ← b.evaluate registry s
      .ok (if v.isTruthy then x else y)) := by
  rw [Part.ternary, evaluate_call, evaluateAll_cons, hCondition, evaluateAll_cons]
  cases a.evaluate registry s with
  | error f => rfl
  | ok x =>
    rw [evaluateAll_cons]
    cases b.evaluate registry s with
    | error f => rfl
    | ok y => exact Registry.apply_of_function? h.logic.1 _

/-- `and` tells whether all of its arguments are truthy, provided that all of them have values. -/
theorem Part.evaluate_and {args : List Part} {values : List Value} (hSome : values ≠ [])
    (hArgs : evaluateAll registry args s = .ok values) :
    (Part.call "and" args).evaluate registry s = .ok (.boolean (values.all Value.isTruthy)) := by
  rw [evaluate_call_of_ok "and" hArgs]
  obtain ⟨v, others, rfl⟩ := List.exists_cons_of_ne_nil hSome
  exact Registry.apply_of_function? h.logic.2.1 _

/-- `or` tells whether one of its arguments is truthy, provided that all of them have values. -/
theorem Part.evaluate_or {args : List Part} {values : List Value} (hSome : values ≠ [])
    (hArgs : evaluateAll registry args s = .ok values) :
    (Part.call "or" args).evaluate registry s = .ok (.boolean (values.any Value.isTruthy)) := by
  rw [evaluate_call_of_ok "or" hArgs]
  obtain ⟨v, others, rfl⟩ := List.exists_cons_of_ne_nil hSome
  exact Registry.apply_of_function? h.logic.2.2.1 _

/-- Arguments that have values leave the decision to the deciding ones. -/
theorem decides_of_values :
    registry.Decides fun s others => ∀ p ∈ others, ∃ v, p.evaluate registry s = .ok v where
  yes s condition a b v hCondition hTruthy hOther := by
    obtain ⟨w, hb⟩ := hOther b List.mem_cons_self
    rw [Part.evaluate_ternary h hCondition, hTruthy, hb]
    cases a.evaluate registry s <;> rfl
  no s condition a b v hCondition hFalsy hOther := by
    obtain ⟨w, ha⟩ := hOther a List.mem_cons_self
    rw [Part.evaluate_ternary h hCondition, hFalsy, ha]
    cases b.evaluate registry s <;> rfl
  and s before after arg values v hBefore hTruthy hArg hFalsy hAfter := by
    obtain ⟨others, hAfter⟩ := Part.exists_evaluateAll hAfter
    rw [Part.evaluate_and h (by simp) (Part.evaluateAll_around hBefore hArg hAfter)]
    simp [hFalsy]
  or s before after arg values v hBefore hFalsy hArg hTruthy hAfter := by
    obtain ⟨others, hAfter⟩ := Part.exists_evaluateAll hAfter
    rw [Part.evaluate_or h (by simp) (Part.evaluateAll_around hBefore hArg hAfter)]
    simp [hTruthy]

end Logic

/-! ## Sources -/

/-- The tokens of a conditional, and those of a call of `if`. -/
inductive Conditional (condition yes no : List Token) : List Token → Prop
  | operator : Conditional condition yes no (condition ++ .question :: (yes ++ .colon :: no))
  | call : Conditional condition yes no
      (.name "if" ::
        (.leftParen :: (condition ++ .comma :: (yes ++ .comma :: no)) ++ [.rightParen]))

/-- Both are read as the same part. -/
theorem expression_conditional {tc ta tb : List Token} {condition a b : Part}
    {lexemes : List Lexeme} (hc : Derives NoRecovery tc (.coalesce condition))
    (ha : Derives NoRecovery ta (.ternary a)) (hb : Derives NoRecovery tb (.ternary b))
    (h : Conditional tc ta tb (tokens lexemes)) (last : Nat) :
    Parser.expression (lexemes ++ [⟨.finish, last⟩]) = .ok (.ternary condition a b) := by
  refine Parser.expression_of_derives ?_ last
  generalize tokens lexemes = ts at h
  cases h with
  | operator => exact .conditional hc ha hb
  | call =>
    have hArgs : Derives NoRecovery (tc ++ .comma :: (ta ++ .comma :: tb))
        (.arguments [condition, a, b]) :=
      .moreArguments (.unconditional hc) (.moreArguments ha (.lastArgument hb))
    have hName : "if" ≠ "forEach" := by decide
    exact .unconditional (.single (.uncompared (.call hName hArgs)))

/-- Conditionals and connectives evaluate all of their arguments. What decides counts if the others
have values; the first argument that fails makes the whole fail. -/
theorem connectives_need_values {registry : Registry} (h : registry.Offers Library.logic) :
    registry.Decides (fun s others => ∀ p ∈ others, ∃ v, p.evaluate registry s = .ok v) ∧
      (∀ (s : Scope) (name : String) (before after : List Part) (arg : Part)
        (values : List Value) (f : EvalFault),
        Part.evaluateAll registry before s = .ok values → arg.evaluate registry s = .error f →
          (Part.call name (before ++ arg :: after)).evaluate registry s = .error f) ∧
      ∀ (tc ta tb : List Token) (condition a b : Part) (lexemes : List Lexeme) (last : Nat),
        Derives NoRecovery tc (.coalesce condition) → Derives NoRecovery ta (.ternary a) →
          Derives NoRecovery tb (.ternary b) → Conditional tc ta tb (tokens lexemes) →
            Parser.expression (lexemes ++ [⟨.finish, last⟩]) = .ok (.ternary condition a b) := by
  refine ⟨decides_of_values h, ?_, ?_⟩
  · intro s name before after arg values f hBefore hArg
    exact Part.evaluate_call_of_error name after hBefore hArg
  · intro tc ta tb condition a b lexemes last hc ha hb hConditional
    exact expression_conditional hc ha hb hConditional last

/-- `and` of values is decided by the first falsy one, but a guard in front of a division by zero
does not help. -/
theorem connectives_need_values_guarded :
    let registry := Library.registry ⟨⟨0⟩, .midnight⟩
    let s := Scope.ofContext []
    let yes : Part := .literal (.boolean true)
    let no : Part := .literal (.boolean false)
    let zero : Part := .literal (.number (.ofNat 0))
    let quotient : Part := .call "divide" [zero, zero]
    registry.Offers Library.logic ∧
      (Part.call "and" [yes, no, zero]).evaluate registry s = .ok (.boolean false) ∧
      (Part.ternary no quotient zero).evaluate registry s
        = .error (.call "divide" .divisionByZero) := by
  intro registry s yes no zero quotient
  have hLogic := Library.offers_logic ⟨⟨0⟩, .midnight⟩
  obtain ⟨hDecides, hFails, -⟩ := connectives_need_values hLogic
  have hQuotient : quotient.evaluate registry s = .error (.call "divide" .divisionByZero) := by
    have hDivide : registry.function? "divide" = some Library.divide :=
      Library.offers_registry ⟨⟨0⟩, .midnight⟩
        ⟨"divide", "divide(a, b)", "a divided by b; fails when b is zero", Library.divide⟩
        (by simp [Library.builtins, Library.catalogue, Library.arithmetic])
    have hZero : (Number.ofNat 0).isZero = true := by decide +kernel
    have hValues : Part.evaluateAll registry [zero, zero] s
        = .ok [.number (.ofNat 0), .number (.ofNat 0)] := rfl
    rw [Part.evaluate_call_of_ok "divide" hValues, Registry.apply_of_function? hDivide]
    simp only [Library.divide, Library.arithmetic₂, Library.binary, Library.toNumber, hZero]
    rfl
  refine ⟨hLogic, ?_, ?_⟩
  · refine hDecides.and s [yes] [zero] no [.boolean true] (.boolean false) rfl (by decide) rfl
      rfl fun p hp => ?_
    obtain rfl := List.mem_singleton.mp hp
    exact ⟨_, rfl⟩
  · exact hFails s "if" [no] [zero] quotient [.boolean false] _ rfl hQuotient

end TextTemplate
