import TextTemplate.Library.Texts
import TextTemplate.Proofs.Library.WholeNumbers

/-!
# Parts of texts

A part of a text is given by its start and its length, both of which are clamped to what there is:
there is a part for all integers.

* `isPart_take_drop`: the part that is left when characters are dropped and others are kept.
* `drop_clampInteger`, `take_clampInteger`: no text is so long that bounds of 64 bits matter.
* `substring_eq`, `substring_rest_eq`: both forms of the library function.
* `substring_partitions`: the statement, with the laws that put parts together.
-/

namespace TextTemplate.Text

/-- The characters from a start on, as many as a length says; both are clamped to the text. -/
def IsPart (text : List Char) (start length : Int) (part : List Char) : Prop :=
  ∃ front back, text = front ++ part ++ back ∧ front.length = max 0 (min start text.length) ∧
    part.length = min (max length 0) (text.length - front.length)

theorem isPart_take_drop (text : List Char) (start length : Int) :
    IsPart text start length ((text.drop start.toNat).take length.toNat) := by
  refine ⟨text.take start.toNat, (text.drop start.toNat).drop length.toNat, ?_, ?_, ?_⟩
  · rw [List.append_assoc, List.take_append_drop, List.take_append_drop]
  · rw [List.length_take]
    omega
  · rw [List.length_take, List.length_drop, List.length_take]
    omega

end TextTemplate.Text

namespace TextTemplate.Library

theorem drop_clampInteger {text : List Char} (h : text.length < Nat.pow 2 63) (i : Int) :
    text.drop (clampInteger i).toNat = text.drop i.toNat := by
  have hBound : (Nat.pow 2 63 : Int) = 9223372036854775808 := rfl
  rw [List.drop_eq_drop_iff, clampInteger]
  omega

theorem take_clampInteger {text : List Char} (h : text.length < Nat.pow 2 63) (n : Int) :
    text.take (clampInteger n).toNat = text.take n.toNat := by
  have hBound : (Nat.pow 2 63 : Int) = 9223372036854775808 := rfl
  rw [List.take_eq_take_iff, clampInteger]
  omega

/-! ## The statement -/

section Numbers

variable {s : String} {a b : Value} {i n : Int}

theorem substring_rest_eq (ha : IsWhole a i) :
    substring [.text s, a] = .ok (textValue (s.toList.drop (clampInteger i).toNat)) := by
  unfold substring binaryOptional
  dsimp only
  rw [toInteger_of_isWhole ha]
  rfl

theorem substring_eq (ha : IsWhole a i) (hb : IsWhole b n) :
    substring [.text s, a, b] = .ok (textValue
      ((s.toList.drop (clampInteger i).toNat).take (clampInteger n).toNat)) := by
  unfold substring binaryOptional
  dsimp only
  rw [toInteger_of_isWhole ha]
  dsimp only
  split
  · exact absurd rfl hb.ne_null
  · rw [toInteger_of_isWhole hb]
    rfl

end Numbers

theorem concat_eq (front back : List Char) :
    concat [textValue front, textValue back] = .ok (textValue (front ++ back)) := by
  rw [concat, List.flatMap_cons, List.flatMap_cons, List.flatMap_nil, List.append_nil,
    render_textValue, render_textValue]

/-- Any two whole numbers give a part, clamped to the text (memory holds no text of `2 ^ 63`
characters); a text falls into the parts in front of a place and behind it; and what is behind a
place of what is behind another one is behind the sum of both. -/
theorem substring_partitions (s : String) :
    (s.toList.length < Nat.pow 2 63 → ∀ a b i n, IsWhole a i → IsWhole b n →
      ∃ part : String, substring [.text s, a, b] = .ok (.text part) ∧
        Text.IsPart s.toList i n part.toList) ∧
      (∀ zero a i, IsWhole zero 0 → IsWhole a i →
        ∃ front back, substring [.text s, zero, a] = .ok front ∧
          substring [.text s, a] = .ok back ∧ concat [front, back] = .ok (.text s)) ∧
      ∀ a b c (i j : Int), 0 ≤ i → 0 ≤ j → i + j < Nat.pow 2 53 →
        IsWhole a i → IsWhole b j → IsWhole c (i + j) →
        ∃ rest part, substring [.text s, a] = .ok rest ∧ substring [rest, b] = .ok part ∧
          substring [.text s, c] = .ok part := by
  refine ⟨fun hLength a b i n ha hb => ?_, fun zero a i hZero ha => ?_,
    fun a b c i j hi hj hBound ha hb hc => ?_⟩
  · have hRest : (s.toList.drop i.toNat).length < Nat.pow 2 63 := by
      rw [List.length_drop]
      exact Nat.lt_of_le_of_lt (Nat.sub_le _ _) hLength
    refine ⟨_, substring_eq ha hb, ?_⟩
    rw [String.toList_ofList, drop_clampInteger hLength, take_clampInteger hRest]
    exact Text.isPart_take_drop s.toList i n
  · refine ⟨_, _, substring_eq hZero ha, substring_rest_eq ha, ?_⟩
    have hStart : clampInteger 0 = 0 := clampInteger_of_natAbs_le (by decide)
    rw [concat_eq, hStart, Int.toNat_zero, List.drop_zero, List.take_append_drop, textValue,
      String.ofList_toList]
  · have hExact {k : Int} (hk : 0 ≤ k) (hLe : k ≤ i + j) : clampInteger k = k :=
      clampInteger_of_natAbs_le (by omega)
    have hPlaces : (i + j).toNat = i.toNat + j.toNat := Int.toNat_add hi hj
    refine ⟨_, _, substring_rest_eq ha, substring_rest_eq hb, ?_⟩
    rw [substring_rest_eq hc, hExact hi (by omega), hExact hj (by omega),
      hExact (by omega) (Int.le_refl _), hPlaces, String.toList_ofList, List.drop_drop]

/-- Characters of up to four bytes, a start in front of the text and a length beyond 64 bits. -/
theorem substring_partitions_wide :
    let index (i : Int) := Value.number (Number.ofInt i)
    let most := Value.text " 18446744073709551616"
    "aß中😀".toList.length < Nat.pow 2 63 ∧ IsWhole (index (-3)) (-3) ∧
      IsWhole most (Nat.pow 2 64) ∧
      (∃ part : String, substring [.text "aß中😀", index (-3), most] = .ok (.text part) ∧
        Text.IsPart "aß中😀".toList (-3) (Nat.pow 2 64) part.toList) ∧
      (∃ front back, substring [.text "aß中😀", index 0, index 2] = .ok front ∧
        substring [.text "aß中😀", index 2] = .ok back ∧
        concat [front, back] = .ok (.text "aß中😀")) ∧
      ∃ rest part, substring [.text "aß中😀", index 1] = .ok rest ∧
        substring [rest, index 2] = .ok part ∧
        substring [.text "aß中😀", index 3] = .ok part := by
  intro index most
  have hIndex (i : Int) (h : i.natAbs ≤ 3) : IsWhole (index i) i :=
    isWhole_ofInt (Nat.le_trans h (by decide))
  have hMost : IsWhole most (Nat.pow 2 64) := isWhole_iff.mpr (by decide +kernel)
  have hLength : "aß中😀".toList.length < Nat.pow 2 63 := by decide
  obtain ⟨hPart, hHalves, hTwice⟩ := substring_partitions "aß中😀"
  have hParts := hHalves (index 0) (index 2) 2 (hIndex 0 (by decide)) (hIndex 2 (by decide))
  have hRest := hTwice (index 1) (index 2) (index 3) 1 2 (by decide) (by decide) (by decide)
    (hIndex 1 (by decide)) (hIndex 2 (by decide)) (hIndex 3 (by decide))
  exact ⟨hLength, hIndex (-3) (by decide), hMost,
    hPart hLength _ _ _ _ (hIndex (-3) (by decide)) hMost, hParts, hRest⟩

end TextTemplate.Library
