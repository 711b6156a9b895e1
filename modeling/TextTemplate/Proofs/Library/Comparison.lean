import TextTemplate.Library.Comparison
import TextTemplate.Proofs.Value.Equality

/-!
# Comparisons agree with each other

Equality and the order are decided apart. Both try to read numbers first; what does not read as
numbers is equal by structure and in order only as texts. They agree wherever there is an order.

* `toNumber_same`: equal values read as equal numbers, or both as none.
* `valuesEqual_iff`: two values are equal if they read as equal numbers or are equal by structure.
* `valuesEqual_comm`, `valuesEqual_trans`, `valuesEqual_self_iff`: this is an equivalence on the
  values that hold no not-a-number.
* `compareValues_swap`, `compareValues_eq_iff`: the order turns around with the values, and says that
  they are equal just if they are.
* `comparison_coherent`: the statement for the six comparison functions.
-/

namespace TextTemplate.Library

/-! ## Equality -/

theorem isFinite_of_toNumber_text {s : String} {x : Number} (h : toNumber (.text s) = .ok x) :
    x.isFinite = true := by
  unfold toNumber at h
  dsimp only at h
  split at h
  · split at h
    · rename_i hFinite
      cases h
      exact hFinite
    · cases h
  · cases h

/-- A text never reads as not-a-number. -/
theorem same_self_of_toNumber_text {s : String} {x : Number} (h : toNumber (.text s) = .ok x) :
    x.same x = true := by
  have hFinite := isFinite_of_toNumber_text h
  rw [Number.same_self_iff]
  cases x <;> first | rfl | cases hFinite

theorem toNumber_same {a b : Value} {x : Number} (hSame : a.same b = true)
    (hNumber : toNumber a = .ok x) : ∃ y, toNumber b = .ok y ∧ x.same y = true := by
  cases a with
  | number x' =>
    cases hNumber
    cases b with
    | number y => exact ⟨y, rfl, hSame⟩
    | _ => cases hSame
  | text s =>
    cases b with
    | text t =>
      rw [Value.same, beq_iff_eq] at hSame
      rw [← hSame]
      exact ⟨x, hNumber, same_self_of_toNumber_text hNumber⟩
    | _ => cases hSame
  | _ => cases hNumber

/-- The values read as numbers, and these are equal. -/
def EqualNumbers (a b : Value) : Prop :=
  ∃ x y, toNumber a = .ok x ∧ toNumber b = .ok y ∧ x.same y = true

theorem EqualNumbers.symm {a b : Value} (h : EqualNumbers a b) : EqualNumbers b a := by
  obtain ⟨x, y, ha, hb, hSame⟩ := h
  exact ⟨y, x, hb, ha, Number.same_comm x y ▸ hSame⟩

theorem EqualNumbers.trans {a b c : Value} (hab : EqualNumbers a b) (hbc : EqualNumbers b c) :
    EqualNumbers a c := by
  obtain ⟨x, y, ha, hb, hxy⟩ := hab
  obtain ⟨y', z, hb', hc, hyz⟩ := hbc
  cases hb.symm.trans hb'
  exact ⟨x, z, ha, hc, Number.same_trans hxy hyz⟩

theorem EqualNumbers.trans_same {a b c : Value} (hab : EqualNumbers a b)
    (hbc : b.same c = true) : EqualNumbers a c := by
  obtain ⟨x, y, ha, hb, hxy⟩ := hab
  obtain ⟨z, hc, hyz⟩ := toNumber_same hbc hb
  exact ⟨x, z, ha, hc, Number.same_trans hxy hyz⟩

theorem valuesEqual_iff {a b : Value} :
    valuesEqual a b = true ↔ EqualNumbers a b ∨ a.same b = true := by
  unfold valuesEqual
  split
  · rename_i x y ha hb
    constructor
    · exact fun hSame => .inl ⟨x, y, ha, hb, hSame⟩
    · rintro (⟨x', y', ha', hb', hSame⟩ | hSame)
      · cases ha.symm.trans ha'
        cases hb.symm.trans hb'
        exact hSame
      · obtain ⟨y', hb', hNumbers⟩ := toNumber_same hSame ha
        cases hb.symm.trans hb'
        exact hNumbers
  · rename_i hNone
    refine ⟨.inr, fun h => h.resolve_left ?_⟩
    rintro ⟨x, y, ha, hb, -⟩
    exact hNone x y ha hb

theorem valuesEqual_comm (a b : Value) : valuesEqual a b = valuesEqual b a := by
  rw [Bool.eq_iff_iff, valuesEqual_iff, valuesEqual_iff, Value.same_comm a b]
  exact or_congr_left ⟨EqualNumbers.symm, EqualNumbers.symm⟩

theorem valuesEqual_trans {a b c : Value} (hab : valuesEqual a b = true)
    (hbc : valuesEqual b c = true) : valuesEqual a c = true := by
  rw [valuesEqual_iff] at hab hbc ⊢
  rcases hab with hab | hab
  · rcases hbc with hbc | hbc
    · exact .inl (hab.trans hbc)
    · exact .inl (hab.trans_same hbc)
  · rcases hbc with hbc | hbc
    · rw [Value.same_comm] at hab
      exact .inl (hbc.symm.trans_same hab).symm
    · exact .inr (Value.same_trans hab hbc)

theorem valuesEqual_self_iff {a : Value} : valuesEqual a a = true ↔ a.holdsNaN = false := by
  rw [valuesEqual_iff, ← Value.same_self_iff, or_iff_right_iff_imp]
  rintro ⟨x, y, hx, hy, hSame⟩
  cases hx.symm.trans hy
  cases a with
  | number x' =>
    cases hx
    exact hSame
  | text s => exact beq_self_eq_true s
  | _ => cases hx

/-! ## The order -/

theorem compareTexts_swap (s t : String) : compareTexts t s = (compareTexts s t).swap := by
  unfold compareTexts
  by_cases hEq : s = t
  · rw [hEq, if_neg (String.lt_irrefl t), if_pos rfl]
    rfl
  · by_cases hLess : s < t
    · rw [if_pos hLess, if_neg (String.lt_asymm hLess), if_neg (Ne.symm hEq)]
      rfl
    · have hGreater : t < s := Std.lt_of_le_of_ne (String.not_lt.mp hLess) (Ne.symm hEq)
      rw [if_neg hLess, if_neg hEq, if_pos hGreater]
      rfl

theorem compareTexts_eq_iff {s t : String} : compareTexts s t = .eq ↔ s = t := by
  unfold compareTexts
  split
  · rename_i hLess
    refine iff_of_false nofun ?_
    rintro rfl
    exact String.lt_irrefl s hLess
  · split
    · rename_i hEq
      exact iff_of_true rfl hEq
    · rename_i hEq
      exact iff_of_false nofun hEq

end TextTemplate.Library

namespace TextTemplate.Number

theorem compare?_eq_some_iff {x y : Number} {order : Ordering} : x.compare? y = some order ↔
    ∃ p q, x.position? = some p ∧ y.position? = some q ∧ compare p q = order := by
  unfold compare?
  cases x.position? with
  | none => simp
  | some p =>
    cases y.position? with
    | none => simp
    | some q => simp

theorem compare?_swap {x y : Number} {order : Ordering} (h : x.compare? y = some order) :
    y.compare? x = some order.swap := by
  obtain ⟨p, q, hx, hy, rfl⟩ := compare?_eq_some_iff.mp h
  exact compare?_eq_some_iff.mpr ⟨q, p, hy, hx, (Int.compare_swap p q).symm⟩

theorem eq_iff_same {x y : Number} {order : Ordering} (h : x.compare? y = some order) :
    order = .eq ↔ x.same y = true := by
  obtain ⟨p, q, hx, hy, rfl⟩ := compare?_eq_some_iff.mp h
  rw [Std.compare_eq_iff_eq, same, hx, hy]
  exact beq_iff_eq.symm

end TextTemplate.Number

namespace TextTemplate.Library

/-- Where two values have an order, it is that of their numbers, or else that of texts of which one
does not read as a number. -/
theorem compareValues_cases {a b : Value} {order : Ordering} (h : compareValues a b = .ok order) :
    (∃ x y, toNumber a = .ok x ∧ toNumber b = .ok y ∧ x.compare? y = some order) ∨
      ∃ s t, a = .text s ∧ b = .text t ∧ compareTexts s t = order ∧
        ∀ x y, toNumber a = .ok x → toNumber b ≠ .ok y := by
  unfold compareValues at h
  split at h
  · rename_i x y ha hb
    split at h
    · rename_i order' hOrder
      cases h
      exact .inl ⟨x, y, ha, hb, hOrder⟩
    · cases h
  · rename_i hNone
    split at h
    · cases h
      exact .inr ⟨_, _, rfl, rfl, rfl, fun x y ha hb => hNone x y ha hb⟩
    · cases h

theorem compareValues_of_numbers {a b : Value} {x y : Number} {order : Ordering}
    (ha : toNumber a = .ok x) (hb : toNumber b = .ok y) (h : x.compare? y = some order) :
    compareValues a b = .ok order := by
  unfold compareValues
  rw [ha, hb]
  dsimp only
  rw [h]

theorem compareValues_of_texts {s t : String}
    (h : ∀ x y, toNumber (.text s) = .ok x → toNumber (.text t) ≠ .ok y) :
    compareValues (.text s) (.text t) = .ok (compareTexts s t) := by
  unfold compareValues
  split
  · rename_i x y hs ht
    exact absurd ht (h x y hs)
  · rfl

theorem compareValues_swap {a b : Value} {order : Ordering} (h : compareValues a b = .ok order) :
    compareValues b a = .ok order.swap := by
  rcases compareValues_cases h with ⟨x, y, ha, hb, hOrder⟩ | ⟨s, t, rfl, rfl, rfl, hNone⟩
  · exact compareValues_of_numbers hb ha (Number.compare?_swap hOrder)
  · rw [← compareTexts_swap]
    exact compareValues_of_texts fun y x ht hs => hNone x y hs ht

theorem compareValues_eq_iff {a b : Value} {order : Ordering} (h : compareValues a b = .ok order) :
    order = .eq ↔ valuesEqual a b = true := by
  rcases compareValues_cases h with ⟨x, y, ha, hb, hOrder⟩ | ⟨s, t, rfl, rfl, rfl, hNone⟩
  · rw [Number.eq_iff_same hOrder, valuesEqual, ha, hb]
  · have hStructure : ¬ EqualNumbers (.text s) (.text t) := by
      rintro ⟨x, y, hs, ht, -⟩
      exact hNone x y hs ht
    rw [compareTexts_eq_iff, valuesEqual_iff, or_iff_right hStructure, Value.same, beq_iff_eq]

/-! ## The six functions -/

/-- The six functions have a value for the two arguments, the values fit together, and exactly one
of less, equal and greater is true. -/
structure Coherent (a b : Value) (less equal greater : Bool) : Prop where
  lt : lt [a, b] = .ok (.boolean less)
  eq : eq [a, b] = .ok (.boolean equal)
  gt : gt [a, b] = .ok (.boolean greater)
  gte : gte [a, b] = .ok (.boolean !less)
  lte : lte [a, b] = .ok (.boolean !greater)
  ne : ne [a, b] = .ok (.boolean !equal)
  reversed : Library.gt [b, a] = .ok (.boolean less)
  one : [less, equal, greater].count true = 1

theorem ordered_of_ok {a b : Value} {order : Ordering} (accept : Ordering → Bool)
    (h : compareValues a b = .ok order) :
    ordered accept [a, b] = .ok (.boolean (accept order)) := by
  change (compareValues a b).map _ = _
  rw [h]
  rfl

theorem exists_order_of_lt {a b : Value} (h : (lt [a, b]).isOk = true) :
    ∃ order, compareValues a b = .ok order := by
  change ((compareValues a b).map _).isOk = true at h
  cases hOrder : compareValues a b with
  | error f =>
    rw [hOrder] at h
    cases h
  | ok order => exact ⟨order, rfl⟩

theorem coherent_of_order {a b : Value} {order : Ordering} (h : compareValues a b = .ok order) :
    Coherent a b order.isLT (valuesEqual a b) order.isGT := by
  have hEqual : valuesEqual a b = order.isEq := by
    rw [Bool.eq_iff_iff, ← compareValues_eq_iff h, Ordering.isEq_iff_eq_eq]
  refine
    { lt := ordered_of_ok _ h
      eq := rfl
      gt := ordered_of_ok _ h
      gte := (ordered_of_ok _ h).trans ?_
      lte := (ordered_of_ok _ h).trans ?_
      ne := rfl
      reversed := (ordered_of_ok _ (compareValues_swap h)).trans ?_
      one := ?_ }
  · cases order <;> rfl
  · cases order <;> rfl
  · cases order <;> rfl
  · rw [hEqual]
    cases order <;> rfl

/-- Equality is an equivalence on the values that hold no not-a-number, and where one comparison
has a value, all six have values that fit together. -/
theorem comparison_coherent :
    (∀ a b, valuesEqual a b = valuesEqual b a) ∧
      (∀ a b c, valuesEqual a b = true → valuesEqual b c = true → valuesEqual a c = true) ∧
      (∀ a, valuesEqual a a = true ↔ a.holdsNaN = false) ∧
      ∀ a b, (lt [a, b]).isOk = true →
        ∃ less equal greater, Coherent a b less equal greater := by
  refine ⟨valuesEqual_comm, fun a b c => valuesEqual_trans, fun a => valuesEqual_self_iff, ?_⟩
  intro a b h
  obtain ⟨order, hOrder⟩ := exists_order_of_lt h
  exact ⟨_, _, _, coherent_of_order hOrder⟩

/-- Numbers and texts that read as numbers, texts that do not, and a list. -/
theorem comparison_coherent_mixed :
    let one := Value.number (Number.ofNat 1)
    let items := Value.list [.text "NaN", .number (.infinite true)]
    valuesEqual (.text "1.0") (.text "1") = true ∧ valuesEqual items items = true ∧
      (lt [.text " 9", .text "10"]).isOk = true ∧ (lt [one, .text "1x"]).isOk = false ∧
      ∃ less equal greater, Coherent (.text " 9") (.text "10") less equal greater := by
  intro one items
  obtain ⟨-, hTrans, hSelf, hOrder⟩ := comparison_coherent
  have hOne : valuesEqual (.text "1.0") one = true := by decide +kernel
  have hText : valuesEqual one (.text "1") = true := by decide +kernel
  have hItems : items.holdsNaN = false := by decide +kernel
  have hNumbers : (lt [.text " 9", .text "10"]).isOk = true := by decide +kernel
  exact ⟨hTrans _ _ _ hOne hText, (hSelf items).mpr hItems, hNumbers, by decide +kernel,
    hOrder _ _ hNumbers⟩

end TextTemplate.Library
