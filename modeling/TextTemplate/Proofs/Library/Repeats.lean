import TextTemplate.Library.Collections
import TextTemplate.Proofs.Library.Comparison

/-!
# Removing repeats

A list without repeats is made item by item: each is put behind those kept so far unless one of them
equals it. Items of one class are built alike, so they cannot be told apart by the coarser equality
that looks for an item.

* `IsFirst`: the places at which an item stands for the first time.
* `Keeps`, `Keeps.step`, `Keeps.foldl`: what is kept of the items that have been read, after one
  more and after any number of them.
* `foldl_addNew_of_distinct`: a list without repeats is kept as it is.
* `Keeps.any_valuesEqual`: as long as repeats are left out, the same values are found.
* `unique_keeps_first`: the statement for the library functions.
-/

namespace TextTemplate.Library

/-! ## First places -/

/-- An item stands at this place, and no item in front of it equals it. -/
def IsFirst (items : List Value) (i : Nat) : Prop :=
  ∃ v, items[i]? = some v ∧ ∀ w ∈ items.take i, w.same v = false

theorem IsFirst.lt_length {items : List Value} {i : Nat} (h : IsFirst items i) :
    i < items.length := by
  obtain ⟨v, hItem, -⟩ := h
  exact (List.getElem?_eq_some_iff.mp hItem).1

theorem isFirst_concat {items : List Value} {v : Value} {i : Nat} : IsFirst (items ++ [v]) i ↔
    IsFirst items i ∨ i = items.length ∧ ∀ w ∈ items, w.same v = false := by
  rcases Nat.lt_trichotomy i items.length with hBefore | rfl | hBehind
  · rw [or_iff_left fun h => Nat.ne_of_lt hBefore h.1, IsFirst, IsFirst,
      List.getElem?_append_left hBefore, List.take_append_of_le_length (Nat.le_of_lt hBefore)]
  · rw [or_iff_right fun h => Nat.lt_irrefl _ h.lt_length, IsFirst, List.getElem?_concat_length,
      List.take_left]
    simp
  · have hConcat : ¬ IsFirst (items ++ [v]) i := fun h => by
      have hPlace := h.lt_length
      rw [List.length_append, List.length_singleton] at hPlace
      omega
    refine iff_of_false hConcat fun h => ?_
    rcases h with h | h
    · exact Nat.lt_asymm hBehind h.lt_length
    · exact Nat.ne_of_gt hBehind h.1

/-! ## What is kept -/

/-- No item equals one in front of it. -/
def Distinct (items : List Value) : Prop := items.Pairwise fun a b => a.same b = false

/-- The items that are kept of a list: those at its first places, and all others are repeats of
them. -/
structure Keeps (items kept : List Value) : Prop where
  sublist : kept.Sublist items
  distinct : Distinct kept
  represented : ∀ v ∈ items, v ∈ kept ∨ ∃ k ∈ kept, k.same v = true
  firsts : ∃ places : List Nat, places.Pairwise (· < ·) ∧
    kept.map some = places.map (items[·]?) ∧ ∀ i, i ∈ places ↔ IsFirst items i

variable {items kept : List Value}

theorem keeps_nil : Keeps [] [] where
  sublist := List.Sublist.refl []
  distinct := List.Pairwise.nil
  represented _ hv := absurd hv List.not_mem_nil
  firsts := ⟨[], List.Pairwise.nil, rfl, fun i =>
    iff_of_false List.not_mem_nil fun h => Nat.not_lt_zero i h.lt_length⟩

theorem Keeps.exists_same_iff (h : Keeps items kept) (v : Value) :
    (∃ k ∈ kept, k.same v = true) ↔ ∃ w ∈ items, w.same v = true := by
  constructor
  · rintro ⟨k, hk, hSame⟩
    exact ⟨k, h.sublist.mem hk, hSame⟩
  · rintro ⟨w, hw, hSame⟩
    rcases h.represented w hw with hKept | ⟨k, hk, hRepeat⟩
    · exact ⟨w, hKept, hSame⟩
    · exact ⟨k, hk, Value.same_trans hRepeat hSame⟩

theorem addNew_of_same {v : Value} (h : ∃ k ∈ kept, k.same v = true) : addNew kept v = kept :=
  if_pos (List.any_eq_true.mpr h)

theorem addNew_of_not_same {v : Value} (h : ¬ ∃ k ∈ kept, k.same v = true) :
    addNew kept v = kept ++ [v] :=
  if_neg (mt List.any_eq_true.mp h)

/-- Items at first places stay where they are. -/
theorem map_getElem?_concat {places : List Nat} (h : ∀ i, i ∈ places ↔ IsFirst items i)
    (v : Value) : places.map ((items ++ [v])[·]?) = places.map (items[·]?) :=
  List.map_congr_left fun i hi => List.getElem?_append_left ((h i).mp hi).lt_length

theorem Keeps.repeated (h : Keeps items kept) {v : Value} (hRepeat : ∃ k ∈ kept, k.same v = true) :
    Keeps (items ++ [v]) kept := by
  obtain ⟨places, hAscending, hKept, hFirsts⟩ := h.firsts
  refine ⟨h.sublist.trans (List.sublist_append_left _ _), h.distinct, fun u hu => ?_, places,
    hAscending, by rw [map_getElem?_concat hFirsts, hKept], fun i => ?_⟩
  · rcases List.mem_append.mp hu with hu | hu
    · exact h.represented u hu
    · exact .inr (List.mem_singleton.mp hu ▸ hRepeat)
  · obtain ⟨w, hw, hSame⟩ := (h.exists_same_iff v).mp hRepeat
    have hNot : ¬ (i = items.length ∧ ∀ w ∈ items, w.same v = false) :=
      fun hNew => Bool.false_ne_true ((hNew.2 w hw).symm.trans hSame)
    rw [isFirst_concat, or_iff_left hNot, hFirsts]

theorem Keeps.added (h : Keeps items kept) {v : Value} (hNew : ∀ w ∈ items, w.same v = false) :
    Keeps (items ++ [v]) (kept ++ [v]) := by
  obtain ⟨places, hAscending, hKept, hFirsts⟩ := h.firsts
  refine ⟨h.sublist.append_right [v], ?_, fun u hu => ?_, places ++ [items.length], ?_, ?_,
    fun i => ?_⟩
  · refine List.pairwise_append.mpr ⟨h.distinct, List.pairwise_singleton _ _, fun k hk u hu => ?_⟩
    exact List.mem_singleton.mp hu ▸ hNew k (h.sublist.mem hk)
  · rcases List.mem_append.mp hu with hu | hu
    · refine (h.represented u hu).imp (List.mem_append_left _) ?_
      exact fun ⟨k, hk, hSame⟩ => ⟨k, List.mem_append_left _ hk, hSame⟩
    · exact .inl (List.mem_append_right _ hu)
  · refine List.pairwise_append.mpr ⟨hAscending, List.pairwise_singleton _ _, fun i hi j hj => ?_⟩
    exact List.mem_singleton.mp hj ▸ ((hFirsts i).mp hi).lt_length
  · rw [List.map_append, List.map_append, map_getElem?_concat hFirsts, hKept, List.map_singleton,
      List.map_singleton, List.getElem?_concat_length]
  · rw [isFirst_concat, List.mem_append, List.mem_singleton, hFirsts, and_iff_left hNew]

theorem Keeps.step (h : Keeps items kept) (v : Value) :
    Keeps (items ++ [v]) (addNew kept v) := by
  by_cases hRepeat : ∃ k ∈ kept, k.same v = true
  · rw [addNew_of_same hRepeat]
    exact h.repeated hRepeat
  · rw [addNew_of_not_same hRepeat]
    refine h.added fun w hw => Bool.eq_false_iff.mpr fun hSame => hRepeat ?_
    exact (h.exists_same_iff v).mpr ⟨w, hw, hSame⟩

theorem Keeps.foldl (h : Keeps items kept) (rest : List Value) :
    Keeps (items ++ rest) (rest.foldl addNew kept) := by
  -- Both lists grow at their ends, so the statement is about any items that were read before.
  induction rest generalizing items kept with
  | nil => rwa [List.append_nil]
  | cons v rest ih =>
    have hRest := ih (h.step v)
    rwa [List.append_assoc, List.singleton_append] at hRest

theorem foldl_addNew_of_distinct {rest : List Value} (h : Distinct (kept ++ rest)) :
    rest.foldl addNew kept = kept ++ rest := by
  induction rest generalizing kept with
  | nil => rw [List.foldl_nil, List.append_nil]
  | cons v rest ih =>
    have hNew : ¬ ∃ k ∈ kept, k.same v = true := by
      rintro ⟨k, hk, hSame⟩
      have hDistinct := (List.pairwise_append.mp h).2.2 k hk v List.mem_cons_self
      exact Bool.false_ne_true (hDistinct.symm.trans hSame)
    have hAppend : kept ++ v :: rest = kept ++ [v] ++ rest := by
      rw [List.append_assoc, List.singleton_append]
    rw [hAppend] at h ⊢
    rw [List.foldl_cons, addNew_of_not_same hNew, ih h]

/-- Coercion sees no difference between an item and its repeats. -/
theorem Keeps.any_valuesEqual (h : Keeps items kept) (v : Value) :
    kept.any (valuesEqual · v) = items.any (valuesEqual · v) := by
  rw [Bool.eq_iff_iff, List.any_eq_true, List.any_eq_true]
  constructor
  · rintro ⟨k, hk, hEqual⟩
    exact ⟨k, h.sublist.mem hk, hEqual⟩
  · rintro ⟨w, hw, hEqual⟩
    rcases h.represented w hw with hKept | ⟨k, hk, hSame⟩
    · exact ⟨w, hKept, hEqual⟩
    · exact ⟨k, hk, valuesEqual_trans (valuesEqual_iff.mpr (.inr hSame)) hEqual⟩

/-! ## The statement -/

theorem unique_eq (items : List Value) :
    unique [.list items] = .ok (.list (items.foldl addNew [])) := rfl

theorem includes_eq (items : List Value) (v : Value) :
    includes [.list items, v] = .ok (.boolean (items.any (valuesEqual · v))) := rfl

/-- Removing repeats keeps a list's items at the places where they stand for the first time, so no
two of them are equal, and every item but one that holds not-a-number equals one of them. Nothing is
removed from what is kept, and the same values are found in it. -/
theorem unique_keeps_first (items : List Value) :
    ∃ kept, unique [.list items] = .ok (.list kept) ∧ kept.Sublist items ∧ Distinct kept ∧
      (∀ v ∈ items, v.holdsNaN = false → ∃ k ∈ kept, k.same v = true) ∧
      (∃ places : List Nat, places.Pairwise (· < ·) ∧
        kept.map some = places.map (items[·]?) ∧ ∀ i, i ∈ places ↔ IsFirst items i) ∧
      unique [.list kept] = .ok (.list kept) ∧
      ∀ v, ∃ found, includes [.list kept, v] = .ok (.boolean found) ∧
        includes [.list items, v] = .ok (.boolean found) := by
  have h : Keeps items (items.foldl addNew []) := keeps_nil.foldl items
  refine ⟨_, unique_eq items, h.sublist, h.distinct, fun v hv hNaN => ?_, h.firsts, ?_,
    fun v => ⟨_, includes_eq _ v, ?_⟩⟩
  · exact (h.exists_same_iff v).mpr ⟨v, hv, (Value.same_self_iff v).mpr hNaN⟩
  · rw [unique_eq, foldl_addNew_of_distinct h.distinct, List.nil_append]
  · rw [includes_eq, h.any_valuesEqual]

/-- Both zeros are one class, a text that reads as zero is another one, and lists are compared item
by item; the text is found through the zero that stays. -/
theorem unique_keeps_first_zeros :
    let zero := Value.number Number.zero
    let items := [zero, .list [zero], .number Number.negativeZero, .text "0",
      .list [.number Number.negativeZero], .text "0"]
    (∀ v ∈ items, v.holdsNaN = false) ∧
      ∃ kept, unique [.list items] = .ok (.list kept) ∧
        kept = [zero, .list [zero], .text "0"] ∧
        (∀ v ∈ items, ∃ k ∈ kept, k.same v = true) ∧
        unique [.list kept] = .ok (.list kept) ∧
        ∃ found, includes [.list kept, .text " 0.0"] = .ok (.boolean found) ∧
          includes [.list items, .text " 0.0"] = .ok (.boolean found) := by
  intro zero items
  have hNaN : ∀ v ∈ items, v.holdsNaN = false := by decide +kernel
  obtain ⟨kept, hUnique, -, -, hClasses, -, hAgain, hFound⟩ := unique_keeps_first items
  have hKept : unique [.list items] = .ok (.list [zero, .list [zero], .text "0"]) := rfl
  exact ⟨hNaN, kept, hUnique, Value.list.inj (Except.ok.inj (hUnique.symm.trans hKept)),
    fun v hv => hClasses v hv (hNaN v hv), hAgain, hFound _⟩

end TextTemplate.Library
