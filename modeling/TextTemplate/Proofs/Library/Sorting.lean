import TextTemplate.Library.Arithmetic
import TextTemplate.Library.Collections
import TextTemplate.Proofs.Library.Comparison

/-!
# Sorting by one key for the whole list

A list is sorted by the numbers that its items read as, if all of them do, and else by the texts
that they are. Either way every item has a key and the same sort by keys is run, so the results are
stated once, for items with keys in a linear order.

* `SortedBy`: the items ascend by their keys, and those of one key keep their order.
* `sortedBy_of_sortBy?`, `sortBy?_again`: sorting does this, and sorting again changes nothing.
* `sortItems_eq`: the keys of a list.
* `Number.Picks`, `Picks.foldl`: least and greatest numbers, in the order that both zeros share.
* `sort_stable`: the statement for lists, with their least and greatest items.
-/

namespace TextTemplate.Library

/-! ## Items with keys -/

section Keys

variable {κ : Type}

/-- Every item stands beside its key. -/
def Keyed (key? : Value → Option κ) (keyed : List (κ × Value)) : Prop :=
  ∀ p ∈ keyed, key? p.2 = some p.1

/-- The items by ascending keys; those of one key are the same ones in the same order. -/
structure SortedBy [LE κ] [DecidableEq κ] (key? : Value → Option κ) (items sorted : List Value) :
    Prop where
  perm : sorted.Perm items
  ascending : sorted.Pairwise fun a b => ∃ j k, key? a = some j ∧ key? b = some k ∧ j ≤ k
  stable : ∀ k, sorted.filter (fun v => key? v = some k) = items.filter fun v => key? v = some k

/-- Sorts items that all have a key. -/
def sortBy? (key? : Value → Option κ) (le : κ → κ → Bool) (items : List Value) :
    Option (List Value) :=
  (items.mapM key?).map fun keys => sortByKey le (keys.zip items)

theorem mapM_map_snd {key? : Value → Option κ} {keyed : List (κ × Value)}
    (h : Keyed key? keyed) : (keyed.map Prod.snd).mapM key? = some (keyed.map Prod.fst) := by
  induction keyed with
  | nil => rfl
  | cons p keyed ih =>
    obtain ⟨hHead, hRest⟩ := List.forall_mem_cons.mp h
    rw [List.map_cons, List.mapM_cons, hHead, ih hRest]
    rfl

theorem exists_keyed {key? : Value → Option κ} {items : List Value} {keys : List κ}
    (h : items.mapM key? = some keys) :
    ∃ keyed, Keyed key? keyed ∧ keyed.map Prod.snd = items := by
  induction items generalizing keys with
  | nil => exact ⟨[], fun p hp => absurd hp List.not_mem_nil, rfl⟩
  | cons v items ih =>
    rw [List.mapM_cons] at h
    obtain ⟨k, hKey, hRest⟩ := Option.bind_eq_some_iff.mp h
    obtain ⟨rest, hKeys, -⟩ := Option.bind_eq_some_iff.mp hRest
    obtain ⟨keyed, hKeyed, hItems⟩ := ih hKeys
    refine ⟨(k, v) :: keyed, List.forall_mem_cons.mpr ⟨hKey, hKeyed⟩, ?_⟩
    rw [List.map_cons, hItems]

theorem mapM_isSome_iff {key? : Value → Option κ} {items : List Value} :
    (items.mapM key?).isSome = true ↔ ∀ v ∈ items, (key? v).isSome = true := by
  induction items with
  | nil => exact iff_of_true rfl fun v hv => absurd hv List.not_mem_nil
  | cons v items ih =>
    rw [List.forall_mem_cons, ← ih, List.mapM_cons]
    cases key? v with
    | none => simp
    | some k => cases items.mapM key? <;> simp

theorem sortBy?_isSome_iff {key? : Value → Option κ} {le : κ → κ → Bool} {items : List Value} :
    (sortBy? key? le items).isSome = true ↔ ∀ v ∈ items, (key? v).isSome = true := by
  rw [sortBy?, Option.isSome_map, mapM_isSome_iff]

theorem exists_keyed_of_sortBy? {key? : Value → Option κ} {le : κ → κ → Bool}
    {items sorted : List Value} (h : sortBy? key? le items = some sorted) :
    ∃ keyed, Keyed key? keyed ∧ keyed.map Prod.snd = items := by
  obtain ⟨keys, hKeys, -⟩ := Option.map_eq_some_iff.mp h
  exact exists_keyed hKeys

theorem sortBy?_map_snd {key? : Value → Option κ} (le : κ → κ → Bool) {keyed : List (κ × Value)}
    (h : Keyed key? keyed) :
    sortBy? key? le (keyed.map Prod.snd) = some (sortByKey le keyed) := by
  rw [sortBy?, mapM_map_snd h, Option.map_some, ← List.zip_of_prod rfl rfl]

theorem Keyed.mergeSort {key? : Value → Option κ} {keyed : List (κ × Value)}
    (h : Keyed key? keyed) (le : κ × Value → κ × Value → Bool) :
    Keyed key? (keyed.mergeSort le) :=
  fun p hp => h p (List.mem_mergeSort.mp hp)

/-- An item has a key just if it stands beside that key. -/
theorem Keyed.filter_map_snd [DecidableEq κ] {key? : Value → Option κ} {keyed : List (κ × Value)}
    (h : Keyed key? keyed) (k : κ) :
    (keyed.map Prod.snd).filter (fun v => key? v = some k)
      = (keyed.filter fun p => p.1 = k).map Prod.snd := by
  rw [List.filter_map]
  refine congrArg _ (List.filter_congr fun p hp => ?_)
  rw [Function.comp_apply, h p hp]
  exact decide_eq_decide.mpr Option.some_inj

section Order

variable [LE κ] [Std.IsLinearPreorder κ] {le : κ → κ → Bool} (hle : ∀ j k, le j k = true ↔ j ≤ k)

include hle

theorem keys_trans {V : Type} (a b c : κ × V) (hab : le a.1 b.1 = true) (hbc : le b.1 c.1 = true) :
    le a.1 c.1 = true := by
  rw [hle] at hab hbc ⊢
  exact Std.le_trans hab hbc

theorem keys_total {V : Type} (a b : κ × V) : (le a.1 b.1 || le b.1 a.1) = true := by
  rw [Bool.or_eq_true, hle, hle]
  exact Std.le_total

/-- Items of one key are in ascending order as they come, so they come in the same order out of
sorting. -/
theorem filter_mergeSort [DecidableEq κ] (keyed : List (κ × Value)) (k : κ) :
    (keyed.mergeSort fun a b => le a.1 b.1).filter (fun p => p.1 = k)
      = keyed.filter fun p => p.1 = k := by
  have hSame : (keyed.filter fun p => p.1 = k).Pairwise fun a b => le a.1 b.1 = true := by
    refine List.pairwise_of_forall_mem_list fun a ha b hb => ?_
    have haKey : a.1 = k := of_decide_eq_true (List.mem_filter.mp ha).2
    have hbKey : b.1 = k := of_decide_eq_true (List.mem_filter.mp hb).2
    rw [hle, haKey, hbKey]
    exact Std.le_refl k
  have hSublist := List.sublist_mergeSort (keys_trans hle) (keys_total hle) hSame
    List.filter_sublist
  have hFilter := hSublist.filter fun p => p.1 = k
  rw [List.filter_filter] at hFilter
  simp only [Bool.and_self] at hFilter
  have hPerm := (List.mergeSort_perm keyed fun a b => le a.1 b.1).filter fun p => p.1 = k
  exact (hFilter.eq_of_length hPerm.length_eq.symm).symm

variable {key? : Value → Option κ}

theorem sortedBy_sortByKey [DecidableEq κ] {keyed : List (κ × Value)} (h : Keyed key? keyed) :
    SortedBy key? (keyed.map Prod.snd) (sortByKey le keyed) := by
  have hSorted := h.mergeSort fun a b => le a.1 b.1
  refine ⟨(List.mergeSort_perm keyed _).map Prod.snd, ?_, fun k => ?_⟩
  · refine List.pairwise_map.mpr ?_
    have hAscending := List.pairwise_mergeSort (keys_trans hle) (keys_total hle) keyed
    refine hAscending.imp_of_mem fun {a b} ha hb hab => ?_
    exact ⟨a.1, b.1, hSorted a ha, hSorted b hb, (hle _ _).mp hab⟩
  · rw [sortByKey, hSorted.filter_map_snd, h.filter_map_snd, filter_mergeSort hle]

/-- What is sorted is in order, and stays as it is. -/
theorem sortByKey_mergeSort (keyed : List (κ × Value)) :
    sortByKey le (keyed.mergeSort fun a b => le a.1 b.1) = sortByKey le keyed := by
  rw [sortByKey, List.mergeSort_of_pairwise
    (List.pairwise_mergeSort (keys_trans hle) (keys_total hle) keyed), sortByKey]

theorem sortedBy_of_sortBy? [DecidableEq κ] {items sorted : List Value}
    (h : sortBy? key? le items = some sorted) : SortedBy key? items sorted := by
  obtain ⟨keyed, hKeyed, rfl⟩ := exists_keyed_of_sortBy? h
  rw [sortBy?_map_snd le hKeyed, Option.some_inj] at h
  exact h ▸ sortedBy_sortByKey hle hKeyed

theorem sortBy?_again {items sorted : List Value} (h : sortBy? key? le items = some sorted) :
    sortBy? key? le sorted = some sorted := by
  obtain ⟨keyed, hKeyed, rfl⟩ := exists_keyed_of_sortBy? h
  rw [sortBy?_map_snd le hKeyed, Option.some_inj] at h
  rw [← h]
  refine (sortBy?_map_snd le (hKeyed.mergeSort _)).trans ?_
  rw [sortByKey_mergeSort hle]

end Order

end Keys

/-! ## The keys of a list -/

/-- The place of the number that a value reads as. -/
def rank? (v : Value) : Option Int :=
  match toNumber v with
  | .ok x => some x.rank
  | .error _ => none

/-- All items read as numbers. -/
def AllNumeric (items : List Value) : Prop := ∀ v ∈ items, ∃ x, toNumber v = .ok x

def AllTexts (items : List Value) : Prop := ∀ v ∈ items, ∃ s, v = .text s

theorem rank?_isSome_iff {v : Value} : (rank? v).isSome = true ↔ ∃ x, toNumber v = .ok x := by
  unfold rank?
  split
  · rename_i x hx
    exact iff_of_true rfl ⟨x, hx⟩
  · rename_i f hf
    refine iff_of_false Bool.false_ne_true ?_
    rintro ⟨x, hx⟩
    cases hf.symm.trans hx

theorem asText?_isSome_iff {v : Value} : v.asText?.isSome = true ↔ ∃ s, v = .text s := by
  cases v with
  | text s => exact iff_of_true rfl ⟨s, rfl⟩
  | _ => exact iff_of_false Bool.false_ne_true nofun

theorem mapM_rank? (items : List Value) :
    items.mapM rank? = (toNumbers items).toOption.map (List.map Number.rank) := by
  induction items with
  | nil => rfl
  | cons v items ih =>
    rw [List.mapM_cons, ih, rank?, toNumbers]
    cases toNumber v with
    | error f => rfl
    | ok x => cases toNumbers items <;> rfl

/-- Sorts items that all read as numbers. -/
def sortNumbers? : List Value → Option (List Value) := sortBy? rank? fun a b => decide (a ≤ b)

/-- Sorts items that all are texts. -/
def sortTexts? : List Value → Option (List Value) :=
  sortBy? Value.asText? fun a b => !decide (b < a)

theorem texts_le_iff (s t : String) : (!decide (t < s)) = true ↔ s ≤ t := by
  rw [Bool.not_eq_true', decide_eq_false_iff_not, String.not_lt]

/-- A list is sorted by numbers if it can be, otherwise by texts. -/
theorem sortItems_eq (items : List Value) :
    sortItems items = ((sortNumbers? items).or (sortTexts? items)).elim
      (.error (.unsortable (items.map Value.typeName))) .ok := by
  unfold sortItems sortNumbers? sortBy?
  rw [mapM_rank?]
  cases toNumbers items with
  | ok xs => rfl
  | error f =>
    have hTexts : allTexts? items = items.mapM Value.asText? := rfl
    unfold sortTexts? sortBy?
    dsimp only
    rw [hTexts]
    cases items.mapM Value.asText? <;> rfl

end TextTemplate.Library

/-! ## Least and greatest numbers -/

namespace TextTemplate.Number

/-- Both are numbers, and the first is not greater. -/
def AtMost (x y : Number) : Prop :=
  ∃ p q, x.position? = some p ∧ y.position? = some q ∧ p ≤ q

theorem exists_position {x : Number} (h : x.isNaN = false) : ∃ p, x.position? = some p := by
  cases x with
  | nan negative => cases h
  | _ => exact ⟨_, rfl⟩

theorem AtMost.refl {x : Number} (h : x.isNaN = false) : x.AtMost x := by
  obtain ⟨p, hp⟩ := exists_position h
  exact ⟨p, p, hp, hp, Int.le_refl p⟩

theorem AtMost.trans {x y z : Number} (hxy : x.AtMost y) (hyz : y.AtMost z) : x.AtMost z := by
  obtain ⟨p, q, hx, hy, hpq⟩ := hxy
  obtain ⟨q', r, hy', hz, hqr⟩ := hyz
  cases hy.symm.trans hy'
  exact ⟨p, r, hx, hz, Int.le_trans hpq hqr⟩

theorem AtMost.same {x y : Number} (hxy : x.AtMost y) (hyx : y.AtMost x) : x.same y = true := by
  obtain ⟨p, q, hx, hy, hpq⟩ := hxy
  obtain ⟨q', p', hy', hx', hqp⟩ := hyx
  cases hx.symm.trans hx'
  cases hy.symm.trans hy'
  exact same_iff.mpr ⟨p, hx, Int.le_antisymm hpq hqp ▸ hy⟩

/-- Ranks are positions, but those of negative numbers make room for a zero of their own. -/
theorem rank_cases {x : Number} {p : Int} (h : x.position? = some p) :
    (0 ≤ p ∧ x.rank = p) ∨ (p ≤ 0 ∧ x.rank = p - 1) := by
  cases x with
  | nan negative => cases h
  | finite negative m =>
    have hUnits := Int.natCast_nonneg m.units
    cases negative <;> cases h
    · exact .inl ⟨hUnits, rfl⟩
    · exact .inr ⟨Int.neg_nonpos_of_nonneg hUnits, rfl⟩
  | infinite negative =>
    have hLimit := Int.natCast_nonneg Magnitude.limit
    rw [position?, Option.some_inj] at h
    cases negative
    · rw [if_neg Bool.false_ne_true] at h
      exact .inl ⟨h ▸ hLimit, h⟩
    · rw [if_pos rfl] at h
      refine .inr ⟨h ▸ Int.neg_nonpos_of_nonneg hLimit, ?_⟩
      rw [rank, h]

/-- The total order refines the numeric one. -/
theorem atMost_of_rank_le {x y : Number} (hx : x.isNaN = false) (hy : y.isNaN = false)
    (h : x.rank ≤ y.rank) : x.AtMost y := by
  obtain ⟨p, hp⟩ := exists_position hx
  obtain ⟨q, hq⟩ := exists_position hy
  have hpRank := rank_cases hp
  have hqRank := rank_cases hq
  exact ⟨p, q, hp, hq, by omega⟩

theorem atMost_of_less {x y : Number} (h : less x y = true) : x.AtMost y := by
  rw [less, beq_iff_eq] at h
  obtain ⟨p, q, hx, hy, hLess⟩ := compare?_eq_some_iff.mp h
  exact ⟨p, q, hx, hy, Int.le_of_lt (Int.compare_eq_lt.mp hLess)⟩

theorem atMost_of_not_less {x y : Number} (hx : x.isNaN = false) (hy : y.isNaN = false)
    (h : less x y = false) : y.AtMost x := by
  obtain ⟨p, hp⟩ := exists_position hx
  obtain ⟨q, hq⟩ := exists_position hy
  refine ⟨q, p, hq, hp, Int.not_lt.mp fun hLess => ?_⟩
  have hCompare : x.compare? y = some .lt :=
    compare?_eq_some_iff.mpr ⟨p, q, hp, hq, Int.compare_eq_lt.mpr hLess⟩
  rw [less, hCompare] at h
  cases h

/-- A choice between two numbers that takes one that comes before the other. -/
structure Picks (before : Number → Number → Prop) (choose : Number → Number → Number) : Prop where
  refl : ∀ {x}, x.isNaN = false → before x x
  trans : ∀ {x y z}, before x y → before y z → before x z
  same : ∀ {x y}, before x y → before y x → x.same y = true
  chosen : ∀ {x y}, x.isNaN = false → y.isNaN = false →
    choose x y = x ∧ before x y ∨ choose x y = y ∧ before y x

theorem picks_min : Picks AtMost min := by
  refine ⟨.refl, .trans, AtMost.same, fun {x y} hx hy => ?_⟩
  rw [min, hx, hy, Bool.false_or, if_neg Bool.false_ne_true]
  split
  · rename_i hLess
    exact .inr ⟨rfl, atMost_of_less hLess⟩
  · rename_i hLess
    exact .inl ⟨rfl, atMost_of_not_less hy hx (Bool.eq_false_iff.mpr hLess)⟩

theorem picks_max : Picks (fun x y => y.AtMost x) max := by
  refine ⟨.refl, fun hxy hyz => hyz.trans hxy, fun hxy hyx => hyx.same hxy, fun {x y} hx hy => ?_⟩
  rw [max, hx, hy, Bool.false_or, if_neg Bool.false_ne_true]
  split
  · rename_i hLess
    exact .inr ⟨rfl, atMost_of_less hLess⟩
  · rename_i hLess
    exact .inl ⟨rfl, atMost_of_not_less hx hy (Bool.eq_false_iff.mpr hLess)⟩

/-- Choosing along numbers ends with one of them that comes before all. -/
theorem Picks.foldl {before : Number → Number → Prop} {choose : Number → Number → Number}
    (h : Picks before choose) (x : Number) (xs : List Number)
    (hNumbers : ∀ y ∈ x :: xs, y.isNaN = false) :
    xs.foldl choose x ∈ x :: xs ∧ ∀ y ∈ x :: xs, before (xs.foldl choose x) y := by
  induction xs generalizing x with
  | nil =>
    refine ⟨List.mem_cons_self, fun y hy => ?_⟩
    obtain rfl := List.mem_singleton.mp hy
    exact h.refl (hNumbers y hy)
  | cons next xs ih =>
    obtain ⟨hx, hNext, hXs⟩ : x.isNaN = false ∧ next.isNaN = false ∧ ∀ y ∈ xs, y.isNaN = false := by
      simpa using hNumbers
    rw [List.foldl_cons]
    rcases h.chosen hx hNext with ⟨hEq, hBetween⟩ | ⟨hEq, hBetween⟩
    · obtain ⟨hMem, hBefore⟩ := ih x (List.forall_mem_cons.mpr ⟨hx, hXs⟩)
      obtain ⟨hFirst, hRest⟩ := List.forall_mem_cons.mp hBefore
      rw [hEq]
      refine ⟨?_, List.forall_mem_cons.mpr ⟨hFirst, List.forall_mem_cons.mpr
        ⟨h.trans hFirst hBetween, hRest⟩⟩⟩
      rcases List.mem_cons.mp hMem with hHead | hTail
      · exact List.mem_cons.mpr (.inl hHead)
      · exact List.mem_cons_of_mem _ (List.mem_cons_of_mem _ hTail)
    · obtain ⟨hMem, hBefore⟩ := ih next (List.forall_mem_cons.mpr ⟨hNext, hXs⟩)
      rw [hEq]
      have hFirst := (List.forall_mem_cons.mp hBefore).1
      exact ⟨List.mem_cons_of_mem _ hMem,
        List.forall_mem_cons.mpr ⟨h.trans hFirst hBetween, hBefore⟩⟩

end TextTemplate.Number

namespace TextTemplate.Library

theorem isNaN_of_toNumber {v : Value} {x : Number} (h : toNumber v = .ok x)
    (hv : v.holdsNaN = false) : x.isNaN = false := by
  cases v with
  | number y =>
    cases h
    exact hv
  | text s =>
    have hFinite := isFinite_of_toNumber_text h
    cases x <;> first | rfl | cases hFinite
  | _ => cases h

theorem toNumbers_cons_eq_ok {v : Value} {items : List Value} {xs : List Number} :
    toNumbers (v :: items) = .ok xs ↔
      ∃ x rest, toNumber v = .ok x ∧ toNumbers items = .ok rest ∧ xs = x :: rest := by
  rw [toNumbers]
  cases toNumber v with
  | error f => simp
  | ok x =>
    cases toNumbers items with
    | error f => simp
    | ok rest => simp [eq_comm]

theorem mem_of_toNumbers {items : List Value} {xs : List Number} (h : toNumbers items = .ok xs)
    (x : Number) : x ∈ xs ↔ ∃ v ∈ items, toNumber v = .ok x := by
  induction items generalizing xs with
  | nil =>
    cases h
    simp
  | cons v items ih =>
    obtain ⟨y, rest, hHead, hRest, rfl⟩ := toNumbers_cons_eq_ok.mp h
    rw [List.mem_cons, ih hRest]
    simp [hHead, eq_comm]

theorem AllNumeric.exists_toNumbers {items : List Value} (h : AllNumeric items) :
    ∃ xs, toNumbers items = .ok xs := by
  induction items with
  | nil => exact ⟨[], rfl⟩
  | cons v items ih =>
    obtain ⟨⟨x, hx⟩, hRest⟩ := List.forall_mem_cons.mp h
    obtain ⟨xs, hxs⟩ := ih hRest
    exact ⟨x :: xs, toNumbers_cons_eq_ok.mpr ⟨x, xs, hx, hxs, rfl⟩⟩

/-- The item reads as a number that comes before those of all items. -/
def Foremost (before : Number → Number → Prop) (items : List Value) (v : Value) : Prop :=
  v ∈ items ∧ ∃ x, toNumber v = .ok x ∧ ∀ w ∈ items, ∀ y, toNumber w = .ok y → before x y

/-- The choice along the numbers of a list is the number of its foremost item. -/
theorem extremum_of_foremost {before : Number → Number → Prop}
    {choose : Number → Number → Number} (hPicks : Number.Picks before choose) (name : String)
    {items : List Value} (hNumbers : AllNumeric items) (hNaN : ∀ v ∈ items, v.holdsNaN = false)
    {v : Value} (hv : Foremost before items v) :
    ∃ best, extremum name choose [.list items] = .ok best ∧ EqualNumbers best v := by
  obtain ⟨hMem, n, hn, hFirst⟩ := hv
  obtain ⟨xs, hxs⟩ := hNumbers.exists_toNumbers
  have hAll := mem_of_toNumbers hxs
  have hNumber : ∀ x ∈ xs, x.isNaN = false := by
    intro x hx
    obtain ⟨w, hw, hwx⟩ := (hAll x).mp hx
    exact isNaN_of_toNumber hwx (hNaN w hw)
  cases xs with
  | nil => exact absurd ((hAll n).mpr ⟨v, hMem, hn⟩) List.not_mem_nil
  | cons x xs =>
    obtain ⟨hBest, hBefore⟩ := hPicks.foldl x xs hNumber
    refine ⟨.number (xs.foldl choose x), ?_, _, n, rfl, hn, ?_⟩
    · have hList : numbers [.list items] = .ok (x :: xs) := hxs
      rw [extremum, hList]
    · obtain ⟨w, hw, hwBest⟩ := (hAll _).mp hBest
      exact hPicks.same (hBefore n ((hAll n).mpr ⟨v, hMem, hn⟩)) (hFirst w hw _ hwBest)

theorem rank?_of_toNumber {v : Value} {x : Number} (h : toNumber v = .ok x) :
    rank? v = some x.rank := by
  rw [rank?, h]

theorem rel_of_head? {α : Type} {R : α → α → Prop} {l : List α} {a : α} (h : l.Pairwise R)
    (hRefl : R a a) (hHead : l.head? = some a) : ∀ b ∈ l, R a b := by
  cases l with
  | nil => cases hHead
  | cons c l =>
    cases hHead
    intro b hb
    rcases List.mem_cons.mp hb with rfl | hb
    · exact hRefl
    · exact (List.pairwise_cons.mp h).1 b hb

/-- The items of a sorted list stand between its first and its last one. -/
theorem SortedBy.foremost {items sorted : List Value} {v : Value} (h : SortedBy rank? items sorted)
    (hNumbers : AllNumeric items) (hNaN : ∀ v ∈ items, v.holdsNaN = false) :
    (sorted.head? = some v → Foremost Number.AtMost items v) ∧
      (sorted.getLast? = some v → Foremost (fun x y => y.AtMost x) items v) := by
  have hRank {a b : Value} {x y : Number} (ha : a ∈ items) (hb : b ∈ items)
      (hx : toNumber a = .ok x) (hy : toNumber b = .ok y)
      (hLe : ∃ j k, rank? a = some j ∧ rank? b = some k ∧ j ≤ k) : x.AtMost y := by
    obtain ⟨j, k, hj, hk, hLe⟩ := hLe
    cases (rank?_of_toNumber hx).symm.trans hj
    cases (rank?_of_toNumber hy).symm.trans hk
    exact Number.atMost_of_rank_le (isNaN_of_toNumber hx (hNaN a ha))
      (isNaN_of_toNumber hy (hNaN b hb)) hLe
  have hSelf {a : Value} (ha : a ∈ items) :
      ∃ j k, rank? a = some j ∧ rank? a = some k ∧ j ≤ k := by
    obtain ⟨x, hx⟩ := hNumbers a ha
    exact ⟨_, _, rank?_of_toNumber hx, rank?_of_toNumber hx, Int.le_refl _⟩
  refine ⟨fun hHead => ?_, fun hLast => ?_⟩
  · have hMem := h.perm.mem_iff.mp (List.mem_of_mem_head? hHead)
    obtain ⟨x, hx⟩ := hNumbers v hMem
    refine ⟨hMem, x, hx, fun w hw y hy => hRank hMem hw hx hy ?_⟩
    exact rel_of_head? h.ascending (hSelf hMem) hHead w (h.perm.mem_iff.mpr hw)
  · have hMem := h.perm.mem_iff.mp (List.mem_of_getLast? hLast)
    obtain ⟨x, hx⟩ := hNumbers v hMem
    refine ⟨hMem, x, hx, fun w hw y hy => hRank hw hMem hy hx ?_⟩
    rw [← List.head?_reverse] at hLast
    exact rel_of_head? (List.pairwise_reverse.mpr h.ascending) (hSelf hMem) hLast w
      (List.mem_reverse.mpr (h.perm.mem_iff.mpr hw))

/-! ## The statement -/

/-- The list is sorted by a key of its items, and sorting it again changes nothing. -/
def SortsBy {κ : Type} [LE κ] [DecidableEq κ] (key? : Value → Option κ) (items : List Value) :
    Prop :=
  ∃ sorted, sort [.list items] = .ok (.list sorted) ∧ SortedBy key? items sorted ∧
    sort [.list sorted] = .ok (.list sorted)

theorem sort_eq (items : List Value) : sort [.list items] = (sortItems items).map .list := rfl

theorem sort_of_sortNumbers? {items sorted : List Value} (h : sortNumbers? items = some sorted) :
    sort [.list items] = .ok (.list sorted) := by
  rw [sort_eq, sortItems_eq, h]
  rfl

theorem sort_of_sortTexts? {items sorted : List Value} (hNone : sortNumbers? items = none)
    (h : sortTexts? items = some sorted) : sort [.list items] = .ok (.list sorted) := by
  rw [sort_eq, sortItems_eq, hNone, h]
  rfl

theorem sortNumbers?_isSome_iff {items : List Value} :
    (sortNumbers? items).isSome = true ↔ AllNumeric items :=
  sortBy?_isSome_iff.trans (forall₂_congr fun _ _ => rank?_isSome_iff)

theorem sortTexts?_isSome_iff {items : List Value} :
    (sortTexts? items).isSome = true ↔ AllTexts items :=
  sortBy?_isSome_iff.trans (forall₂_congr fun _ _ => asText?_isSome_iff)

theorem sortsBy_rank? {items : List Value} (h : AllNumeric items) : SortsBy rank? items := by
  obtain ⟨sorted, hSorted⟩ := Option.isSome_iff_exists.mp (sortNumbers?_isSome_iff.mpr h)
  have hLe (j k : Int) : decide (j ≤ k) = true ↔ j ≤ k := decide_eq_true_iff
  exact ⟨sorted, sort_of_sortNumbers? hSorted, sortedBy_of_sortBy? hLe hSorted,
    sort_of_sortNumbers? (sortBy?_again hLe hSorted)⟩

theorem sortsBy_asText? {items : List Value} (h : AllTexts items) (hNot : ¬ AllNumeric items) :
    SortsBy Value.asText? items := by
  obtain ⟨sorted, hSorted⟩ := Option.isSome_iff_exists.mp (sortTexts?_isSome_iff.mpr h)
  have hBy := sortedBy_of_sortBy? texts_le_iff hSorted
  -- The sorted list has the same items, so they do not all read as numbers either.
  have hNone {l : List Value} (hl : ¬ AllNumeric l) : sortNumbers? l = none := by
    rwa [← Option.not_isSome_iff_eq_none, sortNumbers?_isSome_iff]
  have hNotSorted : ¬ AllNumeric sorted :=
    fun hAll => hNot fun v hv => hAll v (hBy.perm.mem_iff.mpr hv)
  exact ⟨sorted, sort_of_sortTexts? (hNone hNot) hSorted, hBy,
    sort_of_sortTexts? (hNone hNotSorted) (sortBy?_again texts_le_iff hSorted)⟩

theorem sort_isOk_iff {items : List Value} :
    (sort [.list items]).isOk = true ↔ AllNumeric items ∨ AllTexts items := by
  rw [← sortNumbers?_isSome_iff, ← sortTexts?_isSome_iff, sort_eq, sortItems_eq]
  cases sortNumbers? items with
  | some sorted => exact iff_of_true rfl (.inl rfl)
  | none =>
    cases sortTexts? items with
    | some sorted => exact iff_of_true rfl (.inr rfl)
    | none =>
      exact iff_of_false Bool.false_ne_true
        fun h => h.elim Bool.false_ne_true Bool.false_ne_true

/-- A list is sorted just if all its items read as numbers or all are texts: by the numbers in the
first case, by the texts otherwise. Without not-a-number, the first and the last item by number are
the least and the greatest of the list. -/
theorem sort_stable :
    (∀ items, (sort [.list items]).isOk = true ↔ AllNumeric items ∨ AllTexts items) ∧
      (∀ items, AllNumeric items → SortsBy rank? items) ∧
      (∀ items, AllTexts items → ¬ AllNumeric items → SortsBy Value.asText? items) ∧
      ∀ items, items ≠ [] → AllNumeric items → (∀ v ∈ items, v.holdsNaN = false) →
        ∃ sorted first last least greatest, sort [.list items] = .ok (.list sorted) ∧
          sorted.head? = some first ∧ sorted.getLast? = some last ∧
          min [.list items] = .ok least ∧ EqualNumbers least first ∧
          max [.list items] = .ok greatest ∧ EqualNumbers greatest last := by
  refine ⟨fun items => sort_isOk_iff, fun items => sortsBy_rank?, fun items => sortsBy_asText?,
    fun items hItems hNumbers hNaN => ?_⟩
  obtain ⟨sorted, hSort, hBy, -⟩ := sortsBy_rank? hNumbers
  have hSorted : sorted ≠ [] := fun hNil => hItems (List.nil_perm.mp (hNil ▸ hBy.perm))
  obtain ⟨first, hFirst⟩ := Option.ne_none_iff_exists'.mp (mt List.head?_eq_none_iff.mp hSorted)
  obtain ⟨last, hLast⟩ := Option.ne_none_iff_exists'.mp (mt List.getLast?_eq_none_iff.mp hSorted)
  have hForemost := (hBy.foremost hNumbers hNaN).1 hFirst
  have hHindmost := (hBy.foremost hNumbers hNaN).2 hLast
  obtain ⟨least, hMin, hLeast⟩ :=
    extremum_of_foremost Number.picks_min "min" hNumbers hNaN hForemost
  obtain ⟨greatest, hMax, hGreatest⟩ :=
    extremum_of_foremost Number.picks_max "max" hNumbers hNaN hHindmost
  exact ⟨sorted, first, last, least, greatest, hSort, hFirst, hLast, hMin, hLeast, hMax, hGreatest⟩

/-- Numbers beside texts that read as numbers, both zeros, and texts of which one is no number. -/
theorem sort_stable_mixed :
    let items := [Value.text " 10", .number (Number.ofNat 9), .text "9.0",
      .number Number.negativeZero, .number Number.zero]
    let words := [Value.text "b", .text "10", .text "9"]
    items ≠ [] ∧ AllNumeric items ∧ (∀ v ∈ items, v.holdsNaN = false) ∧
      AllTexts words ∧ ¬ AllNumeric words ∧ SortsBy rank? items ∧ SortsBy Value.asText? words ∧
      ∃ sorted first last least greatest, sort [.list items] = .ok (.list sorted) ∧
        sorted.head? = some first ∧ sorted.getLast? = some last ∧
        min [.list items] = .ok least ∧ EqualNumbers least first ∧
        max [.list items] = .ok greatest ∧ EqualNumbers greatest last := by
  intro items words
  have hItems : AllNumeric items := fun v hv =>
    rank?_isSome_iff.mp ((by decide +kernel : ∀ v ∈ items, (rank? v).isSome = true) v hv)
  have hNaN : ∀ v ∈ items, v.holdsNaN = false := by decide +kernel
  have hWords : AllTexts words := fun v hv =>
    asText?_isSome_iff.mp ((by decide +kernel : ∀ v ∈ words, v.asText?.isSome = true) v hv)
  have hNot : ¬ AllNumeric words := by
    intro hAll
    have hb := rank?_isSome_iff.mpr (hAll (.text "b") List.mem_cons_self)
    revert hb
    decide +kernel
  obtain ⟨-, hNumbers, hTexts, hExtremes⟩ := sort_stable
  exact ⟨List.cons_ne_nil _ _, hItems, hNaN, hWords, hNot, hNumbers items hItems,
    hTexts words hWords hNot, hExtremes items (List.cons_ne_nil _ _) hItems hNaN⟩

end TextTemplate.Library
