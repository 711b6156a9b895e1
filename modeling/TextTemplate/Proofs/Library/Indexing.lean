import TextTemplate.Library.Collections
import TextTemplate.Proofs.Library.WholeNumbers

/-!
# Items by their index

Indices from zero on count from the first item, negative ones from the last. So a list of `n` items
has those from `-n` to `n - 1`, and reversing the list takes `i` to `-1 - i`.

* `itemAt?_of_inRange`, `itemAt?_eq_none`: the index of an item is counted round the list, and there
  is no item at any other index.
* `itemAt?_reverse`: the item of the reversed list; so the last item is the one at `-1`.
* `map_itemAt?_down`: the items from the first to the last one, by negative indices.
* `itemAt_mirrors`: the statement for the library functions.
-/

namespace TextTemplate.Library

variable {items : List Value} {i : Int}

/-! ## Places of indices -/

/-- An index at which a list of so many items has one. -/
def InRange (length : Nat) (i : Int) : Prop := -(length : Int) ≤ i ∧ i < length

theorem InRange.toNat_emod_lt {length : Nat} (h : InRange length i) :
    (i % length).toNat < length := by
  have hLength : (0 : Int) < length := by
    obtain ⟨hLower, hUpper⟩ := h
    omega
  have hLower := Int.emod_nonneg i (Int.ne_of_gt hLength)
  have hUpper := Int.emod_lt_of_pos i hLength
  omega

theorem itemAt?_of_nonneg (h : 0 ≤ i) : itemAt? items i = items[i.toNat]? := if_pos h

theorem itemAt?_of_inRange (h : InRange items.length i) :
    itemAt? items i = items[(i % items.length).toNat]? := by
  obtain ⟨hLower, hUpper⟩ := h
  rcases Int.lt_or_le i 0 with hNegative | hNonneg
  · have hRound : i % items.length = i + items.length := by
      rw [← Int.add_emod_right, Int.emod_eq_of_lt (by omega) (by omega)]
    have hPlace : items.length - i.natAbs = (i + items.length).toNat := by omega
    rw [itemAt?, if_neg (by omega), if_pos (by omega), hRound, hPlace]
  · rw [itemAt?_of_nonneg hNonneg, Int.emod_eq_of_lt hNonneg hUpper]

theorem itemAt?_eq_none (h : ¬ InRange items.length i) : itemAt? items i = none := by
  rw [InRange] at h
  rcases Int.lt_or_le i 0 with hNegative | hNonneg
  · rw [itemAt?, if_neg (by omega), if_neg (by omega)]
  · rw [itemAt?_of_nonneg hNonneg, List.getElem?_eq_none (by omega)]

/-! ## Both ends -/

theorem itemAt?_reverse_of_nonneg (items : List Value) (h : 0 ≤ i) :
    itemAt? items.reverse i = itemAt? items (-1 - i) := by
  rw [itemAt?_of_nonneg h]
  by_cases hItem : i.toNat < items.length
  · have hPlace : items.length - 1 - i.toNat = items.length - (-1 - i).natAbs := by omega
    rw [List.getElem?_reverse hItem, itemAt?, if_neg (by omega), if_pos (by omega), hPlace]
  · have hLength : items.reverse.length = items.length := List.length_reverse
    have hNot : ¬ InRange items.length (-1 - i) := by
      rw [InRange]
      omega
    rw [List.getElem?_eq_none (by omega), itemAt?_eq_none hNot]

theorem itemAt?_reverse (items : List Value) (i : Int) :
    itemAt? items.reverse i = itemAt? items (-1 - i) := by
  rcases Int.lt_or_le i 0 with hNegative | hNonneg
  · -- A negative index is the mirror image of one that is not, in the list reversed twice.
    have hNonneg : 0 ≤ -1 - i := by omega
    have hTwice : -1 - (-1 - i) = i := by omega
    have hMirror := itemAt?_reverse_of_nonneg items.reverse hNonneg
    rw [List.reverse_reverse, hTwice] at hMirror
    exact hMirror.symm
  · exact itemAt?_reverse_of_nonneg items hNonneg

theorem itemAt?_zero (items : List Value) : itemAt? items 0 = items.head? :=
  List.head?_eq_getElem?.symm

theorem itemAt?_neg_one (items : List Value) : itemAt? items (-1) = items.getLast? := by
  have hMirror := itemAt?_reverse items 0
  rw [itemAt?_zero, List.head?_reverse] at hMirror
  exact hMirror.symm

/-- The numbers from a count down to one. -/
def downFrom (n : Nat) : List Nat := (List.range' 1 n).reverse

theorem mem_downFrom {n k : Nat} : k ∈ downFrom n ↔ 0 < k ∧ k ≤ n := by
  rw [downFrom, List.mem_reverse, List.mem_range'_1]
  omega

theorem map_itemAt?_down (items : List Value) :
    (downFrom items.length).map (fun k : Nat => itemAt? items (-k)) = items.map some := by
  have hUp : (List.range' 1 items.length).map (fun k : Nat => itemAt? items (-k))
      = items.reverse.map some := by
    refine List.ext_getElem (by simp) fun k hk hk' => ?_
    have hMirror : (-((1 + k : Nat) : Int)) = -1 - (k : Int) := by omega
    have hItem : k < items.reverse.length := by simpa using hk'
    rw [List.getElem_map, List.getElem_range', Nat.one_mul, hMirror, ← itemAt?_reverse,
      List.getElem_map, itemAt?_of_nonneg (Int.natCast_nonneg k), Int.toNat_natCast,
      List.getElem?_eq_getElem hItem]
  rw [downFrom, List.map_reverse, hUp, ← List.map_reverse, List.reverse_reverse]

/-! ## The statement -/

theorem itemAt_eq {a : Value} (ha : IsWhole a i) :
    itemAt [.list items, a] = .ok ((itemAt? items (clampInteger i)).getD .null) := by
  change (toInteger a).map _ = _
  rw [toInteger_of_isWhole ha]
  rfl

theorem itemAt_eq_of_natAbs_le {a : Value} (ha : IsWhole a i) (h : i.natAbs ≤ Nat.pow 2 53) :
    itemAt [.list items, a] = .ok ((itemAt? items i).getD .null) := by
  rw [itemAt_eq ha, clampInteger_of_natAbs_le h]

theorem getD_itemAt?_eq_null_iff : (itemAt? items i).getD .null = .null ↔
    ¬ InRange items.length i ∨ items[(i % items.length).toNat]? = some .null := by
  by_cases hRange : InRange items.length i
  · have hItem := List.getElem?_eq_getElem hRange.toNat_emod_lt
    rw [itemAt?_of_inRange hRange, hItem, Option.getD_some, Option.some_inj]
    exact (or_iff_right (not_not_intro hRange)).symm
  · rw [itemAt?_eq_none hRange]
    exact iff_of_true rfl (.inl hRange)

/-- Indices of a reversed list are those of the list counted from its other end; there is an item at
each index from minus the length on that is less than the length; the first and the last one are at
`0` and `-1`; and the negative indices, from the least on, give all items in their order. -/
theorem itemAt_mirrors (items : List Value) :
    (∀ a b i, IsWhole a i → IsWhole b (-1 - i) →
      ∃ reversed, reverse [.list items] = .ok reversed ∧
        itemAt [reversed, a] = itemAt [.list items, b]) ∧
      (∀ a i, IsWhole a i → i.natAbs < Nat.pow 2 53 →
        ∃ v, itemAt [.list items, a] = .ok v ∧
          (v = .null ↔ ¬ InRange items.length i ∨
            items[(i % items.length).toNat]? = some .null)) ∧
      (∀ zero, IsWhole zero 0 → first [.list items] = itemAt [.list items, zero]) ∧
      (∀ a, IsWhole a (-1) → last [.list items] = itemAt [.list items, a]) ∧
      ∀ index : Nat → Value, (∀ k, 0 < k → k ≤ items.length → IsWhole (index k) (-k)) →
        (downFrom items.length).map (fun k => itemAt [.list items, index k])
          = items.map .ok := by
  refine ⟨fun a b i ha hb => ⟨_, rfl, ?_⟩, fun a i ha hBound => ?_, fun zero hZero => ?_,
    fun a ha => ?_, fun index hIndex => ?_⟩
  · rw [itemAt_eq ha, itemAt_eq hb, itemAt?_reverse, clampInteger_reflect]
  · exact ⟨_, itemAt_eq_of_natAbs_le ha (Nat.le_of_lt hBound), getD_itemAt?_eq_null_iff⟩
  · rw [itemAt_eq_of_natAbs_le hZero (by decide), itemAt?_zero]
    rfl
  · rw [itemAt_eq_of_natAbs_le ha (by decide), itemAt?_neg_one]
    rfl
  · have hExact := le_of_forall_isWhole hIndex
    have hItem (k : Nat) (hk : k ∈ downFrom items.length) :
        itemAt [.list items, index k] = .ok ((itemAt? items (-k)).getD .null) := by
      obtain ⟨hPos, hLe⟩ := mem_downFrom.mp hk
      exact itemAt_eq_of_natAbs_le (hIndex k hPos hLe) (by omega)
    calc
      (downFrom items.length).map (fun k => itemAt [.list items, index k])
      _ = ((downFrom items.length).map fun k : Nat => itemAt? items (-k)).map
            fun item? => .ok (item?.getD .null) := by
        rw [List.map_map]
        exact List.map_congr_left hItem
      _ = (items.map some).map fun item? => .ok (item?.getD .null) := by rw [map_itemAt?_down]
      _ = items.map .ok := List.map_map

/-- A list with null in the middle, from both ends and beyond them. -/
theorem itemAt_mirrors_three :
    let items := [Value.text "a", .null, .text "c"]
    let index (i : Int) := Value.number (Number.ofInt i)
    (∀ i : Int, i.natAbs ≤ 4 → IsWhole (index i) i) ∧
      (∃ reversed, reverse [.list items] = .ok reversed ∧
        itemAt [reversed, index 3] = itemAt [.list items, index (-4)]) ∧
      itemAt [.list items, index (-4)] = .ok .null ∧
      itemAt [.list items, index (-2)] = .ok .null ∧
      itemAt [.list items, index 0] = .ok (.text "a") ∧
      itemAt [.list items, index (-1)] = .ok (.text "c") ∧
      [index (-3), index (-2), index (-1)].map (fun a => itemAt [.list items, a])
        = items.map .ok := by
  intro items index
  have hIndex (i : Int) (h : i.natAbs ≤ 4) : IsWhole (index i) i :=
    isWhole_ofInt (Nat.le_trans h (by decide))
  obtain ⟨hReverse, hNull, hFirst, hLast, hDown⟩ := itemAt_mirrors items
  obtain ⟨v, hBefore, hvNull⟩ := hNull (index (-4)) (-4) (hIndex _ (by decide)) (by decide)
  obtain ⟨w, hMiddle, hwNull⟩ := hNull (index (-2)) (-2) (hIndex _ (by decide)) (by decide)
  have hOutside : ¬ InRange items.length (-4) := fun h => absurd h.1 (by decide)
  refine ⟨hIndex, hReverse _ _ 3 (hIndex 3 (by decide)) (hIndex (-4) (by decide)),
    hvNull.mpr (.inl hOutside) ▸ hBefore, hwNull.mpr (.inr rfl) ▸ hMiddle,
    (hFirst _ (hIndex 0 (by decide))).symm, (hLast _ (hIndex (-1) (by decide))).symm,
    hDown (fun k => index (-k)) fun k hPos hLe => hIndex _ ?_⟩
  have hThree : k ≤ 3 := hLe
  omega

end TextTemplate.Library
