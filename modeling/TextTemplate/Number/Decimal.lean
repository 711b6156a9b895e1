import TextTemplate.Number.Basic

/-!
# Shortest decimals

The shortest decimal of a magnitude is the one with the fewest digits that reads back as it, and
of those the nearest. Grids of 1, 2, … digits are tried in turn; a grid point that reads back
exists exactly when one of the two neighbours of the value on that grid does.

* `Decimal.shortest_reads`: the result reads back.
-/

namespace TextTemplate

/-- The value `digits * 10 ^ exponent`. -/
structure Decimal where
  digits : Nat
  exponent : Int
deriving DecidableEq

namespace Decimal

/-- Which of two equally near neighbours is taken. -/
inductive Tie
  | up
  | even
deriving DecidableEq

/-- The quotient of units that a decimal stands for. -/
def ratio (d : Decimal) : Nat × Nat :=
  match d.exponent with
  | .ofNat e => (d.digits * Nat.pow 10 e * Magnitude.one, 1)
  | .negSucc e => (d.digits * Magnitude.one, Nat.pow 10 (e + 1))

/-- The magnitude nearest to a decimal, or none when that is too large. -/
def magnitude? (d : Decimal) : Option Magnitude := Magnitude.nearest? d.ratio.1 d.ratio.2

/-- A magnitude as a quotient in steps of `10 ^ exponent`. -/
def onGrid (m : Magnitude) : Int → Nat × Nat
  | .ofNat e => (m.units, Nat.pow 10 e * Magnitude.one)
  | .negSucc e => (m.units * Nat.pow 10 (e + 1), Magnitude.one)

/-- The exponent of the leading decimal digit of a magnitude that is not zero. -/
def leadingExponent (m : Magnitude) : Int :=
  let guess : Int := ((m.units.log2 : Int) - Magnitude.unitExponent) * 30103 / 100000
  let reaches (e : Int) : Bool :=
    let (num, den) := onGrid m e
    decide (den ≤ num)
  if !reaches guess then guess - 1
  else if reaches (guess + 1) then guess + 1
  else guess

/-- Drops trailing zeros; `fuel` bounds how many. -/
def trim : Nat → Decimal → Decimal
  | 0, d => d
  | fuel + 1, d =>
    if d.digits ≠ 0 ∧ d.digits % 10 = 0 then trim fuel ⟨d.digits / 10, d.exponent + 1⟩ else d

/-- Does a decimal read back as the magnitude? -/
def reads (m : Magnitude) (d : Decimal) : Bool := d.magnitude? == some m

/-- The two neighbours of a magnitude on the grid of `exponent`, the nearer one first. -/
def neighbours (tie : Tie) (m : Magnitude) (exponent : Int) : List Decimal :=
  let (num, den) := onGrid m exponent
  let low : Decimal := ⟨num / den, exponent⟩
  let high : Decimal := ⟨num / den + 1, exponent⟩
  match compare (2 * (num % den)) den, tie with
  | .lt, _ => [low, high]
  | .gt, _ => [high, low]
  | .eq, .up => [high, low]
  | .eq, .even => if low.digits % 2 = 0 then [low, high] else [high, low]

/-- The magnitude itself, digit for digit. -/
def exact (m : Magnitude) : Decimal :=
  ⟨m.units * Nat.pow 5 Magnitude.unitExponent, -(Magnitude.unitExponent : Int)⟩

/-- Tries the grids of `count`, `count + 1`, … digits, `grids` of them. -/
def search (tie : Tie) (m : Magnitude) (leading : Int) : Nat → Nat → Decimal
  | 0, _ => exact m
  | grids + 1, count =>
    match (neighbours tie m (leading - count + 1)).find? (reads m) with
    | some d => d
    | none => search tie m leading grids (count + 1)

/-- The decimal with the fewest digits that reads back as the magnitude. -/
def shortest (tie : Tie) (m : Magnitude) : Decimal :=
  if m.units = 0 then ⟨0, 0⟩ else trim 20 (search tie m (leadingExponent m) 17 1)

theorem powerOfTen_zero : Nat.pow 10 0 = 1 := rfl

theorem powerOfTen_succ (e : Nat) : Nat.pow 10 (e + 1) = Nat.pow 10 e * 10 := rfl

theorem powerOfTen_eq (e : Nat) : Nat.pow 10 e = Nat.pow 5 e * Nat.pow 2 e := Nat.mul_pow 5 2 e

theorem powerOfFive_pos (e : Nat) : 0 < Nat.pow 5 e := Nat.pow_pos (by decide)

theorem trim_magnitude? (fuel : Nat) (d : Decimal) :
    (trim fuel d).magnitude? = d.magnitude? := by
  induction fuel generalizing d with
  | zero => rfl
  | succ fuel ih =>
    unfold trim
    split
    · rename_i h
      rw [ih]
      obtain ⟨digits, exponent⟩ := d
      obtain ⟨k, hk⟩ : ∃ k, digits = k * 10 := ⟨digits / 10, by simp at h; omega⟩
      subst hk
      simp only [magnitude?, ratio, Nat.mul_div_cancel k (by decide : 0 < 10)]
      match exponent with
      | .ofNat e =>
        rw [show Int.ofNat e + 1 = Int.ofNat (e + 1) from rfl]
        simp only
        rw [powerOfTen_succ, ← Nat.mul_assoc, Nat.mul_right_comm k]
      | .negSucc 0 =>
        rw [show Int.negSucc 0 + 1 = Int.ofNat 0 from rfl]
        simp only
        rw [powerOfTen_succ, powerOfTen_zero, Nat.mul_one, Nat.one_mul,
          show k * 10 * Magnitude.one = k * Magnitude.one * 10 from Nat.mul_right_comm ..]
        exact (Magnitude.nearest?_scale _ 1 (c := 10) (by decide)).symm
      | .negSucc (e + 1) =>
        rw [show Int.negSucc (e + 1) + 1 = Int.negSucc e from rfl]
        simp only
        rw [show k * 10 * Magnitude.one = k * Magnitude.one * 10 from Nat.mul_right_comm ..,
          powerOfTen_succ (e + 1)]
        exact (Magnitude.nearest?_scale _ _ (c := 10) (by decide)).symm
    · rfl

theorem magnitude?_scaled (digits exponent : Nat) :
    magnitude? ⟨digits, (exponent : Int)⟩
      = Magnitude.nearest? (digits * Nat.pow 10 exponent * Magnitude.one) 1 := rfl

theorem magnitude?_places (digits : Nat) {places : Nat} (h : 0 < places) :
    magnitude? ⟨digits, -(places : Int)⟩
      = Magnitude.nearest? (digits * Magnitude.one) (Nat.pow 10 places) := by
  cases places with
  | zero => exact absurd h (Nat.lt_irrefl 0)
  | succ places => rfl

theorem exact_magnitude? (m : Magnitude) : (exact m).magnitude? = some m := by
  have hone : Nat.pow 10 Magnitude.unitExponent
      = Nat.pow 5 Magnitude.unitExponent * Magnitude.one := by
    unfold Magnitude.one
    exact powerOfTen_eq _
  rw [exact, magnitude?_places _ (by decide), hone, Nat.mul_assoc]
  exact Magnitude.nearest?_mul m (Nat.mul_pos (powerOfFive_pos _) Magnitude.one_pos)

theorem search_magnitude? (tie : Tie) (m : Magnitude) (leading : Int) (grids count : Nat) :
    (search tie m leading grids count).magnitude? = some m := by
  induction grids generalizing count with
  | zero => exact exact_magnitude? m
  | succ grids ih =>
    unfold search
    split
    · rename_i h
      simpa [reads] using List.find?_some h
    · exact ih _

theorem shortest_reads (tie : Tie) (m : Magnitude) : (shortest tie m).magnitude? = some m := by
  unfold shortest
  split
  · rename_i h
    have hs := magnitude?_scaled 0 0
    have hm := Magnitude.nearest?_units m
    simp only [Nat.zero_mul] at hs
    rw [h] at hm
    exact hs.trans hm
  · rw [trim_magnitude?]
    exact search_magnitude? _ _ _ _ _

end Decimal

end TextTemplate
