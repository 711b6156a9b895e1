import TextTemplate.Number.Arithmetic
import TextTemplate.Proofs.Number.Reading
import TextTemplate.Proofs.Value.Equality

/-!
# Integers among the numbers

* `Number.IsInteger`: a number is exactly an integer, counted in units.
* `Number.whole?_eq_some_iff`: the integer of a number without a fraction is exact.
* `Number.same_ofInt`, `Number.whole?_ofInt`: an integer that is a number stands for that number,
  and those of up to 53 binary digits are numbers.
* `Number.not_isInteger_of_natAbs`: the next integer is no number.
* `Number.same_neg_ofInt`: signs of integers are signs of numbers, up to that of zero.
-/

namespace TextTemplate.Number

/-- The number is exactly this integer. -/
def IsInteger (x : Number) (i : Int) : Prop :=
  ∃ negative m, x = .finite negative m ∧ signedUnits negative m = i * Magnitude.one

theorem signedUnits_eq_mul {m : Magnitude} {n : Nat} (h : m.units = n * Magnitude.one)
    (negative : Bool) :
    signedUnits negative m = (if negative then -(n : Int) else n) * Magnitude.one := by
  rw [signedUnits, h, Int.natCast_mul]
  split
  · rw [Int.neg_mul]
  · rfl

theorem units_of_signedUnits {negative : Bool} {m : Magnitude} {i : Int}
    (h : signedUnits negative m = i * Magnitude.one) : m.units = i.natAbs * Magnitude.one := by
  have hAbs : (signedUnits negative m).natAbs = m.units := by
    cases negative
    · exact Int.natAbs_natCast _
    · exact (Int.natAbs_neg _).trans (Int.natAbs_natCast _)
  rw [← hAbs, h, Int.natAbs_mul, Int.natAbs_natCast]

theorem whole?_eq_some_iff {x : Number} {i : Int} : x.whole? = some i ↔ x.IsInteger i := by
  cases x with
  | infinite negative => exact iff_of_false nofun fun ⟨_, _, hFinite, _⟩ => nomatch hFinite
  | nan negative => exact iff_of_false nofun fun ⟨_, _, hFinite, _⟩ => nomatch hFinite
  | finite negative m =>
    rw [whole?]
    constructor
    · intro h
      split at h
      · rename_i hWhole
        have hUnits := Nat.div_mul_cancel (Nat.dvd_of_mod_eq_zero hWhole)
        exact ⟨negative, m, rfl, Option.some.inj h ▸ signedUnits_eq_mul hUnits.symm negative⟩
      · cases h
    · rintro ⟨negative', m', hEq, hUnits⟩
      cases hEq
      have hMul := units_of_signedUnits hUnits
      have hSigned := (signedUnits_eq_mul hMul negative).symm.trans hUnits
      have hOne : (Magnitude.one : Int) ≠ 0 :=
        Int.natCast_ne_zero.mpr (Nat.ne_of_gt Magnitude.one_pos)
      rw [if_pos (hMul ▸ Nat.mul_mod_left _ _), hMul, Nat.mul_div_cancel _ Magnitude.one_pos]
      exact congrArg some (Int.eq_of_mul_eq_mul_right hOne hSigned)

theorem same_of_isInteger {x y : Number} {i : Int} (hx : x.IsInteger i) (hy : y.IsInteger i) :
    x.same y = true := by
  obtain ⟨negative, m, rfl, hSigned⟩ := hx
  obtain ⟨negative', m', rfl, hSigned'⟩ := hy
  have hPosition (s : Bool) (n : Magnitude) :
      (finite s n).position? = some (signedUnits s n) := rfl
  exact same_iff.mpr ⟨_, hSigned ▸ hPosition negative m, hSigned' ▸ hPosition negative' m'⟩

/-- An integer of as many units as a magnitude is a number. -/
theorem isInteger_ofInt {m : Magnitude} {i : Int} (h : m.units = i.natAbs * Magnitude.one) :
    (ofInt i).IsInteger i := by
  have hNearest := Magnitude.nearest?_units m
  rw [h] at hNearest
  have hSign : (if decide (i < 0) = true then -(i.natAbs : Int) else i.natAbs) = i := by
    split
    · rename_i hNegative
      have := of_decide_eq_true hNegative
      omega
    · rename_i hNegative
      have := mt decide_eq_true hNegative
      omega
  refine ⟨decide (i < 0), m, ofRatio_eq_finite hNearest, ?_⟩
  rw [signedUnits_eq_mul h, hSign]

/-- An integer that is a number is read as it; a zero loses its sign. -/
theorem same_ofInt {x : Number} {i : Int} (h : x.IsInteger i) : (ofInt i).same x = true := by
  obtain ⟨negative, m, rfl, hSigned⟩ := id h
  exact same_of_isInteger (isInteger_ofInt (units_of_signedUnits hSigned)) h

theorem whole?_ofInt {i : Int} (h : i.natAbs ≤ Nat.pow 2 53) : (ofInt i).whole? = some i := by
  obtain ⟨m, hUnits⟩ := Magnitude.exists_units h
  exact whole?_eq_some_iff.mpr (isInteger_ofInt hUnits)

/-- The integer after those of up to 53 binary digits would take 54 of them. -/
theorem not_isInteger_of_natAbs {x : Number} {i : Int} (h : i.natAbs = Nat.pow 2 53 + 1) :
    ¬ x.IsInteger i := by
  rintro ⟨negative, m, -, hSigned⟩
  have hSpaced := m.spaced
  rw [units_of_signedUnits hSigned, h] at hSpaced
  revert hSpaced
  decide +kernel

theorem neg_ofRatio (negative : Bool) (num den : Nat) :
    (ofRatio negative num den).neg = ofRatio (!negative) num den := by
  unfold ofRatio
  cases Magnitude.nearest? num den <;> rfl

theorem same_self_ofRatio (negative : Bool) (num den : Nat) :
    (ofRatio negative num den).same (ofRatio negative num den) = true := by
  rw [same_self_iff]
  unfold ofRatio
  cases Magnitude.nearest? num den <;> rfl

theorem same_neg_ofInt (i : Int) : (ofInt (-i)).same (ofInt i).neg = true := by
  by_cases hZero : i = 0
  · subst hZero
    decide +kernel
  · have hSign : decide (-i < 0) = !decide (i < 0) := by
      by_cases hNegative : i < 0
      · rw [decide_eq_true hNegative, decide_eq_false (by omega)]
        rfl
      · rw [decide_eq_false hNegative, decide_eq_true (by omega)]
        rfl
    rw [ofInt, ofInt, neg_ofRatio, Int.natAbs_neg, hSign]
    exact same_self_ofRatio _ _ _

end TextTemplate.Number
