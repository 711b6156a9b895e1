import TextTemplate.Library.Arguments
import TextTemplate.Proofs.Number.Integers

/-!
# Whole numbers in arguments

A value counts as a whole number if it is or reads as one. Functions take it within the bounds of
64 bits.

* `toInteger_of_isWhole`: the integer that functions take.
* `isWhole_ofInt`: integers of up to 53 binary digits are whole numbers.
* `clampInteger_reflect`: the bounds lie around `-1 - i` as they lie around `i`.
* `clampInteger_of_natAbs_le`: integers of up to 53 binary digits are within them.
* `le_of_forall_isWhole`: counting down from zero in whole numbers stays among those.
-/

namespace TextTemplate.Library

/-- The value counts as this whole number. -/
def IsWhole (v : Value) (n : Int) : Prop := ∃ x, toNumber v = .ok x ∧ x.whole? = some n

theorem toInteger_of_isWhole {v : Value} {n : Int} (h : IsWhole v n) :
    toInteger v = .ok (clampInteger n) := by
  obtain ⟨x, hNumber, hWhole⟩ := h
  unfold toInteger
  rw [hNumber]
  dsimp only
  rw [hWhole]

theorem isWhole_ofInt {n : Int} (h : n.natAbs ≤ Nat.pow 2 53) :
    IsWhole (.number (Number.ofInt n)) n :=
  ⟨_, rfl, Number.whole?_ofInt h⟩

theorem isWhole_iff {v : Value} {n : Int} :
    IsWhole v n ↔ (toNumber v).toOption.bind Number.whole? = some n := by
  unfold IsWhole
  cases toNumber v <;> simp [Except.toOption]

theorem IsWhole.ne_null {v : Value} {n : Int} (h : IsWhole v n) : v ≠ .null := by
  rintro rfl
  obtain ⟨x, hNumber, -⟩ := h
  cases hNumber

theorem clampInteger_reflect (i : Int) : clampInteger (-1 - i) = -1 - clampInteger i := by
  have hBound : (Nat.pow 2 63 : Int) = 9223372036854775808 := rfl
  unfold clampInteger
  omega

theorem clampInteger_of_natAbs_le {i : Int} (h : i.natAbs ≤ Nat.pow 2 53) :
    clampInteger i = i := by
  have hExact : Nat.pow 2 53 = 9007199254740992 := rfl
  have hBound : (Nat.pow 2 63 : Int) = 9223372036854775808 := rfl
  unfold clampInteger
  omega

/-- The counting reaches no integer that is no number. -/
theorem le_of_forall_isWhole {count : Nat → Value} {n : Nat}
    (h : ∀ k, 0 < k → k ≤ n → IsWhole (count k) (-k)) : n ≤ Nat.pow 2 53 := by
  refine Nat.not_lt.mp fun hMore => ?_
  obtain ⟨x, -, hWhole⟩ := h (Nat.pow 2 53 + 1) (Nat.succ_pos _) hMore
  exact Number.not_isInteger_of_natAbs (Int.natAbs_neg _) (Number.whole?_eq_some_iff.mp hWhole)

end TextTemplate.Library
