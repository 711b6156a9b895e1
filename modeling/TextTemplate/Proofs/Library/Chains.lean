import TextTemplate.Proofs.Evaluation.Forgiving
import TextTemplate.Proofs.Library.Connectives

/-!
# Chains of `??`

A chain of `??` tries its operands from left to right and passes over those that are missing: that
fail, or are null or the empty text where missing variables count as null. So it does not matter how
the chain is put in parentheses. Where all operands have values, missing variables do not come in,
and a chain agrees with a call of `coalesce` and with nested calls of `default`.

* `Part.Chain`: the chains of given operands.
* `Part.Chain.present?_eq`, `Part.Chain.evaluate_eq`: what a chain gives, by induction on the chain.
* `Value.Chosen`: the first of some values that is not missing, or the last one.
* `chains_agree`: parentheses do not matter, and chains agree with the two functions.
-/

namespace TextTemplate

namespace Part

/-- The chains of `??` with these operands, in all ways of putting them in parentheses. -/
inductive Chain : List Part → Part → Prop
  | operand (p : Part) : Chain [p] p
  | coalesce {ps qs : List Part} {left right : Part} :
      Chain ps left → Chain qs right → Chain (ps ++ qs) (.coalesce left right)

/-- The value on the left of `??`, if it is not passed over. -/
def present? (registry : Registry) (s : Scope) (p : Part) : Option Value :=
  match p.evaluate registry s.forgiving with
  | .ok v => if v.isEmptyLike then none else some v
  | .error _ => none

/-- Nested calls of `default`, the last part being the innermost fallback. -/
def defaults : Part → List Part → Part
  | p, [] => p
  | p, q :: rest => .call "default" [p, defaults q rest]

section Chains

variable {registry : Registry} {s : Scope} {ps before : List Part} {p q q' last : Part} {v : Value}

theorem evaluate_coalesce (left right : Part) :
    (Part.coalesce left right).evaluate registry s
      = match left.present? registry s with
        | some v => .ok v
        | none => right.evaluate registry s := by
  rw [evaluate, present?]
  cases left.evaluate registry s.forgiving with
  | error f => rfl
  | ok v => cases hEmpty : v.isEmptyLike <;> simp [hEmpty]

theorem isEmptyLike_of_present? (h : p.present? registry s = some v) : v.isEmptyLike = false := by
  unfold present? at h
  split at h
  · split at h
    · cases h
    · rename_i hPresent
      cases h
      simpa using hPresent
  · cases h

/-- The right side is tried where the left one is passed over. -/
theorem present?_coalesce (left right : Part) :
    (Part.coalesce left right).present? registry s
      = (left.present? registry s).or (right.present? registry s) := by
  have hAgain : left.present? registry s.forgiving = left.present? registry s := rfl
  rw [present?, evaluate_coalesce, hAgain]
  cases hLeft : left.present? registry s with
  | none => rfl
  | some v => simp [isEmptyLike_of_present? hLeft]

theorem Chain.exists_last (h : Chain ps q) : ∃ before last, ps = before ++ [last] := by
  induction h with
  | operand p => exact ⟨[], p, rfl⟩
  | @coalesce ps _ _ _ _ _ _ ihRight =>
    obtain ⟨before, last, rfl⟩ := ihRight
    exact ⟨ps ++ before, last, (List.append_assoc _ _ _).symm⟩

theorem Chain.present?_eq (h : Chain ps q) :
    q.present? registry s = ps.findSome? (present? registry s) := by
  induction h with
  | operand p => simp
  | coalesce _ _ ihLeft ihRight =>
    rw [present?_coalesce, ihLeft, ihRight, List.findSome?_append]

/-- A chain gives the first value that is not passed over; its last operand is evaluated as it
stands. -/
theorem Chain.evaluate_eq (h : Chain (before ++ [last]) q) :
    q.evaluate registry s
      = match before.findSome? (present? registry s) with
        | some v => .ok v
        | none => last.evaluate registry s := by
  generalize hOperands : before ++ [last] = ps at h
  induction h generalizing before with
  | operand p =>
    obtain ⟨rfl, hLast⟩ := List.append_eq_singleton_iff.mp hOperands |>.resolve_right (by simp)
    cases hLast
    rfl
  | @coalesce ps qs left right hLeft hRight _ ih =>
    obtain ⟨more, final, rfl⟩ := hRight.exists_last
    rw [← List.append_assoc] at hOperands
    obtain ⟨rfl, hLast⟩ := List.append_inj' hOperands rfl
    cases hLast
    rw [evaluate_coalesce, hLeft.present?_eq, List.findSome?_append, ih rfl]
    cases ps.findSome? (present? registry s) <;> rfl

/-- It does not matter how a chain is put in parentheses. -/
theorem Chain.evaluate_congr (h : Chain ps q) (h' : Chain ps q') :
    q.evaluate registry s = q'.evaluate registry s := by
  obtain ⟨before, last, rfl⟩ := h.exists_last
  rw [h.evaluate_eq, h'.evaluate_eq]

theorem coalesce_assoc (a b c : Part) :
    (Part.coalesce (.coalesce a b) c).evaluate registry s
      = (Part.coalesce a (.coalesce b c)).evaluate registry s := by
  have hLeft : Chain [a, b, c] (.coalesce (.coalesce a b) c) :=
    .coalesce (.coalesce (.operand a) (.operand b)) (.operand c)
  have hRight : Chain [a, b, c] (.coalesce a (.coalesce b c)) :=
    .coalesce (.operand a) (.coalesce (.operand b) (.operand c))
  exact hLeft.evaluate_congr hRight

/-- A value that does not need missing variables as null is the same with them. -/
theorem present?_of_ok (h : p.evaluate registry s = .ok v) :
    p.present? registry s = if v.isEmptyLike then none else some v := by
  rw [present?, (p.evaluate_forgives registry s).kept v h]

end Chains

end Part

/-! ## Operands with values -/

/-- The first value that is not missing, or the last one if all are. -/
inductive Value.Chosen (values : List Value) (v : Value) : Prop
  | first {before after : List Value} :
      values = before ++ v :: after → (∀ u ∈ before, u.isEmptyLike = true) →
      v.isEmptyLike = false → Chosen values v
  | last : (∀ u ∈ values, u.isEmptyLike = true) → values.getLast? = some v → Chosen values v

namespace Library

theorem chosen_firstPresent {values : List Value} (h : values ≠ []) :
    Value.Chosen values (firstPresent values) := by
  unfold firstPresent
  split
  · rename_i v hFound
    obtain ⟨hPresent, before, after, rfl, hBefore⟩ := List.find?_eq_some_iff_append.mp hFound
    exact .first rfl (by simpa using hBefore) (by simpa using hPresent)
  · rename_i hNone
    refine .last (by simpa using hNone) ?_
    rw [List.getLast?_eq_some_getLast h]
    rfl

theorem firstPresent_concat (values : List Value) (v : Value) :
    firstPresent (values ++ [v]) = (values.find? fun u => !u.isEmptyLike).getD v := by
  unfold firstPresent
  rw [List.find?_append]
  cases values.find? fun u => !u.isEmptyLike with
  | some w => rfl
  | none => cases hEmpty : v.isEmptyLike <;> simp [hEmpty]

theorem firstPresent_cons (v : Value) {values : List Value} (h : values ≠ []) :
    firstPresent (v :: values) = if v.isEmptyLike then firstPresent values else v := by
  obtain ⟨w, rest, rfl⟩ := List.exists_cons_of_ne_nil h
  unfold firstPresent
  cases hEmpty : v.isEmptyLike <;> simp [hEmpty]

theorem offers_nulls (clock : Calendar.DateTime) : (registry clock).Offers nulls :=
  (offers_registry clock).mono fun b hb =>
    List.mem_flatMap.mpr ⟨("null handling", nulls), by simp [catalogue], hb⟩

end Library

theorem Registry.Offers.nulls {registry : Registry} (h : registry.Offers Library.nulls) :
    registry.function? "default" = some Library.default ∧
      registry.function? "coalesce" = some Library.coalesce := by
  have hAll := h
  simp only [Registry.Offers, Library.nulls, List.forall_mem_cons] at hAll
  exact ⟨hAll.1, hAll.2.1⟩

/-! ## Calls and chains of operands with values -/

namespace Part

variable {registry : Registry} {s : Scope} {ps : List Part} {values : List Value}

theorem evaluateAll_cons_eq_ok {p : Part} (h : evaluateAll registry (p :: ps) s = .ok values) :
    ∃ v rest, p.evaluate registry s = .ok v ∧ evaluateAll registry ps s = .ok rest
      ∧ values = v :: rest := by
  rw [evaluateAll] at h
  split at h
  · cases h
  · rename_i v hFirst
    split at h
    · cases h
    · rename_i rest hRest
      cases h
      exact ⟨v, rest, hFirst, hRest, rfl⟩

theorem evaluateAll_append_eq_ok {qs : List Part}
    (h : evaluateAll registry (ps ++ qs) s = .ok values) :
    ∃ before after, evaluateAll registry ps s = .ok before ∧ evaluateAll registry qs s = .ok after
      ∧ values = before ++ after := by
  rw [evaluateAll_append] at h
  cases hBefore : evaluateAll registry ps s with
  | error f =>
    rw [hBefore] at h
    cases h
  | ok before =>
    cases hAfter : evaluateAll registry qs s with
    | error f =>
      rw [hBefore, hAfter] at h
      cases h
    | ok after =>
      rw [hBefore, hAfter] at h
      cases h
      exact ⟨before, after, rfl, rfl, rfl⟩

theorem findSome?_present? (h : evaluateAll registry ps s = .ok values) :
    ps.findSome? (present? registry s) = values.find? fun v => !v.isEmptyLike := by
  induction ps generalizing values with
  | nil =>
    cases h
    rfl
  | cons p ps ih =>
    obtain ⟨v, rest, hFirst, hRest, rfl⟩ := evaluateAll_cons_eq_ok h
    rw [List.findSome?_cons, List.find?_cons, present?_of_ok hFirst, ih hRest]
    cases v.isEmptyLike <;> rfl

/-- A chain of operands that have values. -/
theorem Chain.evaluate_of_values {q : Part} (hChain : Chain ps q)
    (h : evaluateAll registry ps s = .ok values) :
    q.evaluate registry s = .ok (Library.firstPresent values) := by
  obtain ⟨before, last, rfl⟩ := hChain.exists_last
  obtain ⟨vs, ws, hBefore, hLast, rfl⟩ := evaluateAll_append_eq_ok h
  obtain ⟨w, _, hw, hNone, rfl⟩ := evaluateAll_cons_eq_ok hLast
  cases hNone
  rw [hChain.evaluate_eq, findSome?_present? hBefore, hw, Library.firstPresent_concat]
  cases vs.find? fun v => !v.isEmptyLike <;> rfl

theorem evaluate_coalesce_call (hOffers : registry.Offers Library.nulls)
    (h : evaluateAll registry ps s = .ok values) :
    (Part.call "coalesce" ps).evaluate registry s = .ok (Library.firstPresent values) := by
  rw [evaluate_call_of_ok "coalesce" h, Registry.apply_of_function? hOffers.nulls.2]
  rfl

theorem evaluate_default {p q : Part} {v w : Value} (hOffers : registry.Offers Library.nulls)
    (hp : p.evaluate registry s = .ok v) (hq : q.evaluate registry s = .ok w) :
    (Part.call "default" [p, q]).evaluate registry s = .ok (if v.isEmptyLike then w else v) := by
  have hArgs : evaluateAll registry [p, q] s = .ok [v, w] := by
    rw [evaluateAll_cons, hp, evaluateAll_cons, hq]
    rfl
  rw [evaluate_call_of_ok "default" hArgs, Registry.apply_of_function? hOffers.nulls.1]
  rfl

theorem evaluate_defaults (hOffers : registry.Offers Library.nulls) {p : Part}
    (h : evaluateAll registry (p :: ps) s = .ok values) :
    (defaults p ps).evaluate registry s = .ok (Library.firstPresent values) := by
  induction ps generalizing p values with
  | nil =>
    obtain ⟨v, rest, hFirst, hRest, rfl⟩ := evaluateAll_cons_eq_ok h
    cases hRest
    rw [defaults, hFirst, ← List.nil_append [v], Library.firstPresent_concat]
    rfl
  | cons q ps ih =>
    obtain ⟨v, rest, hFirst, hRest, rfl⟩ := evaluateAll_cons_eq_ok h
    have hSome : rest ≠ [] := by
      obtain ⟨w, more, -, -, rfl⟩ := evaluateAll_cons_eq_ok hRest
      simp
    rw [defaults, evaluate_default hOffers hFirst (ih hRest), Library.firstPresent_cons v hSome]

end Part

/-- Chains of `??` of the same operands evaluate to the same, whatever the parentheses. Where all
operands have values, a chain of them, a call of `coalesce` and nested calls of `default` evaluate
to the first value that is not missing, or to the last one if all are. -/
theorem chains_agree :
    (∀ (registry : Registry) (s : Scope) (a b c : Part),
      (Part.coalesce (.coalesce a b) c).evaluate registry s
        = (Part.coalesce a (.coalesce b c)).evaluate registry s) ∧
    (∀ (registry : Registry) (s : Scope) (ps : List Part) (q q' : Part),
      Part.Chain ps q → Part.Chain ps q' → q.evaluate registry s = q'.evaluate registry s) ∧
    (∀ (registry : Registry) (s : Scope) (p : Part) (ps : List Part),
      registry.Offers Library.nulls → (∀ q ∈ p :: ps, ∃ v, q.evaluate registry s = .ok v) →
      ∃ values v, Part.evaluateAll registry (p :: ps) s = .ok values ∧ Value.Chosen values v ∧
        (∀ q, Part.Chain (p :: ps) q → q.evaluate registry s = .ok v) ∧
        (Part.call "coalesce" (p :: ps)).evaluate registry s = .ok v ∧
        (Part.defaults p ps).evaluate registry s = .ok v) := by
  refine ⟨fun _ _ => Part.coalesce_assoc, fun _ _ _ _ _ h h' => h.evaluate_congr h', ?_⟩
  intro registry s p ps hOffers hOk
  obtain ⟨values, hValues⟩ := Part.exists_evaluateAll hOk
  obtain ⟨v, rest, -, -, rfl⟩ := Part.evaluateAll_cons_eq_ok hValues
  exact ⟨v :: rest, Library.firstPresent (v :: rest), hValues,
    Library.chosen_firstPresent (List.cons_ne_nil v rest),
    fun q hChain => hChain.evaluate_of_values hValues,
    Part.evaluate_coalesce_call hOffers hValues, Part.evaluate_defaults hOffers hValues⟩

/-- The empty text of a loop and null are passed over, in a chain with parentheses on the left. -/
theorem chains_agree_loop :
    let registry := Library.registry ⟨⟨0⟩, .midnight⟩
    let s := Scope.ofContext [("rows", .null)]
    let loop : Part := .forEach "row" none (.variable "rows") (.variable "row")
    let rows : Part := .variable "rows"
    let seven : Part := .literal (.text "7")
    registry.Offers Library.nulls ∧
      (Part.coalesce (.coalesce loop rows) seven).evaluate registry s = .ok (.text "7") ∧
      (Part.call "coalesce" [loop, rows, seven]).evaluate registry s = .ok (.text "7") ∧
      (Part.defaults loop [rows, seven]).evaluate registry s = .ok (.text "7") := by
  intro registry s loop rows seven
  have hOffers := Library.offers_nulls ⟨⟨0⟩, .midnight⟩
  have hChain : Part.Chain [loop, rows, seven] (.coalesce (.coalesce loop rows) seven) :=
    .coalesce (.coalesce (.operand loop) (.operand rows)) (.operand seven)
  have hValue : (Part.coalesce (.coalesce loop rows) seven).evaluate registry s
      = .ok (.text "7") := rfl
  have hOk : ∀ q ∈ [loop, rows, seven], ∃ v, q.evaluate registry s = .ok v := by
    simp only [List.forall_mem_cons]
    exact ⟨⟨.text "", rfl⟩, ⟨.null, rfl⟩, ⟨.text "7", rfl⟩, List.forall_mem_nil _⟩
  obtain ⟨values, v, -, -, hAll, hCall, hDefaults⟩ :=
    chains_agree.2.2 registry s loop [rows, seven] hOffers hOk
  obtain rfl : v = .text "7" := Except.ok.inj ((hAll _ hChain).symm.trans hValue)
  exact ⟨hOffers, hValue, hCall, hDefaults⟩

end TextTemplate
