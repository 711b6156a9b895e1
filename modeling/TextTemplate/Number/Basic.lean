/-!
# Numbers

A number is a double: a sign and a whole count of units of `2 ^ (-1074)` that has at most 53
significant binary digits, an infinity, or not a number. Counting in the smallest unit makes every
finite number an integer, so that each operation is an exact integer computation followed by one
rounding, `Magnitude.nearest?`.

* `Magnitude.nearest?` rounds a quotient to the nearest magnitude, a half to the even neighbour.
* `Magnitude.nearest?_units`: a magnitude is its own nearest magnitude.
-/

namespace TextTemplate

namespace Magnitude

/-- A unit is `2 ^ (-unitExponent)`. -/
def unitExponent : Nat := 1074

/-- How many units make one. -/
def one : Nat := Nat.pow 2 unitExponent

/-- The least count that is too large to be a magnitude: the units of `2 ^ 1024`. -/
def limit : Nat := Nat.pow 2 (1024 + unitExponent)

/-- The distance between neighbouring magnitudes around a count: it leaves 53 binary digits. -/
def spacing (units : Nat) : Nat := Nat.pow 2 (units.log2 - 52)

/-- The whole number nearest to `num / den`; a half goes to the even neighbour. -/
def roundHalfEven (num den : Nat) : Nat :=
  let whole := num / den
  let rest := num % den
  if 2 * rest < den then whole
  else if den < 2 * rest then whole + 1
  else whole + whole % 2

end Magnitude

/-- A finite number without its sign, as a count of units of `2 ^ (-1074)`. -/
structure Magnitude where
  units : Nat
  spaced : units % Magnitude.spacing units = 0
  bounded : units < Magnitude.limit
deriving DecidableEq

namespace Magnitude

theorem powerOfTwo_pos (k : Nat) : 0 < Nat.pow 2 k := Nat.two_pow_pos k

theorem spacing_pos (n : Nat) : 0 < spacing n := powerOfTwo_pos _

theorem roundHalfEven_bounds (num den : Nat) :
    num / den ≤ roundHalfEven num den ∧ roundHalfEven num den ≤ num / den + 1 := by
  unfold roundHalfEven
  dsimp only
  split
  · omega
  · split
    · omega
    · have := Nat.mod_lt (num / den) (show 2 > 0 by decide)
      omega

theorem spacing_of_lt {n : Nat} (h : n < Nat.pow 2 53) : spacing n = 1 := by
  by_cases hn : n = 0
  · subst hn
    simp [spacing]
  · have := (Nat.log2_lt hn).2 h
    simp [spacing, show n.log2 - 52 = 0 by omega]

theorem log2_eq {n k : Nat} (lower : Nat.pow 2 k ≤ n) (upper : n < Nat.pow 2 (k + 1)) :
    n.log2 = k := by
  have hn : n ≠ 0 := Nat.ne_of_gt (Nat.lt_of_lt_of_le (powerOfTwo_pos k) lower)
  have h1 := (Nat.log2_lt hn).2 upper
  have h2 : ¬ n.log2 < k := fun h => by
    exact Nat.not_lt.2 lower ((Nat.log2_lt hn).1 h)
  omega

theorem spacing_mul {m k : Nat} (lower : Nat.pow 2 52 ≤ m) (upper : m < Nat.pow 2 53) :
    spacing (m * Nat.pow 2 k) = Nat.pow 2 k := by
  have h : (m * Nat.pow 2 k).log2 = 52 + k := by
    apply log2_eq
    · rw [show Nat.pow 2 (52 + k) = Nat.pow 2 52 * Nat.pow 2 k from Nat.pow_add ..]
      exact Nat.mul_le_mul_right _ lower
    · rw [show 52 + k + 1 = 53 + k by omega,
        show Nat.pow 2 (53 + k) = Nat.pow 2 53 * Nat.pow 2 k from Nat.pow_add ..]
      exact (Nat.mul_lt_mul_right (powerOfTwo_pos k)).2 upper
  unfold spacing
  rw [h, Nat.add_sub_cancel_left]

/-- Rounding leaves at most 53 significant digits. -/
theorem nearest_spaced (num den : Nat) :
    let step := spacing (num / den)
    let units := roundHalfEven num (den * step) * step
    units % spacing units = 0 := by
  intro step units
  have hb := roundHalfEven_bounds num (den * step)
  rw [← Nat.div_div_eq_div_mul] at hb
  by_cases small : num / den < Nat.pow 2 53
  · have hstep : step = 1 := spacing_of_lt small
    have hu : units = roundHalfEven num (den * step) := by
      simp only [units, hstep, Nat.mul_one]
    rw [hstep, Nat.div_one] at hb
    rw [hstep] at hu
    by_cases top : units < Nat.pow 2 53
    · rw [spacing_of_lt top]
      exact Nat.mod_one _
    · have heq : units = Nat.pow 2 53 :=
        Nat.le_antisymm (hu ▸ Nat.le_trans hb.2 small) (Nat.not_lt.1 top)
      rw [heq]
      decide
  · have hq : num / den ≠ 0 := fun h => small (h.symm ▸ powerOfTwo_pos 53)
    have hlog : 52 < (num / den).log2 := by
      apply Nat.lt_of_not_le
      intro h
      exact small ((Nat.log2_lt hq).1 (by omega))
    obtain ⟨k, hk⟩ : ∃ k, (num / den).log2 = 52 + k := ⟨(num / den).log2 - 52, by omega⟩
    have hstep : step = Nat.pow 2 k := by simp [step, spacing, hk]
    have hpos : 0 < step := spacing_pos _
    have lower : Nat.pow 2 52 ≤ num / den / step := by
      rw [Nat.le_div_iff_mul_le hpos, hstep,
        show Nat.pow 2 52 * Nat.pow 2 k = Nat.pow 2 (52 + k) from (Nat.pow_add ..).symm, ← hk]
      exact Nat.log2_self_le hq
    have upper : num / den / step < Nat.pow 2 53 := by
      rw [Nat.div_lt_iff_lt_mul hpos, hstep,
        show Nat.pow 2 53 * Nat.pow 2 k = Nat.pow 2 (53 + k) from (Nat.pow_add ..).symm,
        show 53 + k = (52 + k) + 1 by omega, ← hk]
      exact Nat.lt_log2_self
    by_cases top : roundHalfEven num (den * step) < Nat.pow 2 53
    · have hs : spacing units = Nat.pow 2 k := by
        simp only [units]
        rw [show roundHalfEven num (den * step) * step
          = roundHalfEven num (den * step) * Nat.pow 2 k by rw [← hstep]]
        exact spacing_mul (Nat.le_trans lower hb.1) top
      rw [hs]
      simp only [units, hstep]
      exact Nat.mul_mod_left _ _
    · have heq : roundHalfEven num (den * step) = Nat.pow 2 53 :=
        Nat.le_antisymm (Nat.le_trans hb.2 upper) (Nat.not_lt.1 top)
      have hu : units = Nat.pow 2 52 * Nat.pow 2 (k + 1) := by
        simp only [units]
        rw [heq, hstep, show Nat.pow 2 53 = Nat.pow 2 52 * 2 from rfl, Nat.mul_assoc,
          show Nat.pow 2 (k + 1) = 2 * Nat.pow 2 k from Nat.pow_succ']
      have hs : spacing units = Nat.pow 2 (k + 1) := by
        rw [hu]
        exact spacing_mul (Nat.le_refl _) (by decide)
      rw [hs, hu]
      exact Nat.mul_mod_left _ _

/-- The magnitude nearest to `num / den` units, or none when that is too large. -/
def nearest? (num den : Nat) : Option Magnitude :=
  let step := spacing (num / den)
  let units := roundHalfEven num (den * step) * step
  if h : units < limit then some ⟨units, nearest_spaced num den, h⟩ else none

theorem roundHalfEven_mul (m : Nat) {d : Nat} (hd : 0 < d) : roundHalfEven (m * d) d = m := by
  have hrest : m * d % d = 0 := Nat.mul_mod_left _ _
  simp [roundHalfEven, hrest, Nat.mul_div_cancel _ hd, hd]

theorem roundHalfEven_scale (num den : Nat) {c : Nat} (hc : 0 < c) :
    roundHalfEven (num * c) (den * c) = roundHalfEven num den := by
  unfold roundHalfEven
  rw [Nat.mul_div_mul_right _ _ hc, Nat.mul_mod_mul_right]
  simp only [← Nat.mul_assoc 2, Nat.mul_lt_mul_right hc]

/-- Rounding sees the quotient only, not how it is written. -/
theorem nearest?_scale (num den : Nat) {c : Nat} (hc : 0 < c) :
    nearest? (num * c) (den * c) = nearest? num den := by
  have h (s : Nat) : roundHalfEven (num * c) (den * c * s) = roundHalfEven num (den * s) := by
    rw [Nat.mul_right_comm, roundHalfEven_scale _ _ hc]
  simp only [nearest?, Nat.mul_div_mul_right _ _ hc, h]

/-- A magnitude is its own nearest magnitude, however the quotient is written. -/
theorem nearest?_mul (m : Magnitude) {d : Nat} (hd : 0 < d) :
    nearest? (m.units * d) d = some m := by
  have hq : m.units * d / d = m.units := Nat.mul_div_cancel _ hd
  obtain ⟨k, hk⟩ : ∃ k, m.units = k * spacing m.units :=
    ⟨m.units / spacing m.units, (Nat.div_mul_cancel (Nat.dvd_of_mod_eq_zero m.spaced)).symm⟩
  have hr : roundHalfEven (m.units * d) (d * spacing m.units) * spacing m.units = m.units := by
    have hm : m.units * d = k * (d * spacing m.units) := by
      rw [Nat.mul_comm d, ← Nat.mul_assoc, ← hk]
    rw [hm, roundHalfEven_mul k (Nat.mul_pos hd (spacing_pos _)), ← hk]
  simp [nearest?, hq, hr, m.bounded]

theorem nearest?_units (m : Magnitude) : nearest? m.units 1 = some m := by
  simpa using nearest?_mul m (d := 1) (by decide)

theorem one_pos : 0 < one := by
  unfold one
  exact powerOfTwo_pos _

theorem limit_pos : 0 < limit := by
  unfold limit
  exact powerOfTwo_pos _

def zero : Magnitude := ⟨0, Nat.zero_mod _, limit_pos⟩

end Magnitude

/-- A double. The sign of not-a-number is kept because sorting places it by sign. -/
inductive Number
  | finite (negative : Bool) (magnitude : Magnitude)
  | infinite (negative : Bool)
  | nan (negative : Bool)
deriving DecidableEq

namespace Number

/-- The number nearest to `num / den` units with the given sign; too large is infinite. -/
def ofRatio (negative : Bool) (num den : Nat) : Number :=
  match Magnitude.nearest? num den with
  | some magnitude => .finite negative magnitude
  | none => .infinite negative

def zero : Number := .finite false Magnitude.zero

def negativeZero : Number := .finite true Magnitude.zero

def ofNat (n : Nat) : Number := ofRatio false (n * Magnitude.one) 1

def ofInt (i : Int) : Number := ofRatio (decide (i < 0)) (i.natAbs * Magnitude.one) 1

/-- The number nearest to `digits * 10 ^ exponent`. -/
def ofDecimal (negative : Bool) (digits : Nat) (exponent : Int) : Number :=
  match exponent with
  | .ofNat e => ofRatio negative (digits * Nat.pow 10 e * Magnitude.one) 1
  | .negSucc e => ofRatio negative (digits * Magnitude.one) (Nat.pow 10 (e + 1))

/-- The exact integer value, for a finite number without a fraction. -/
def whole? : Number → Option Int
  | .finite negative m =>
    if m.units % Magnitude.one = 0 then
      let n : Int := (m.units / Magnitude.one : Nat)
      some (if negative then -n else n)
    else none
  | _ => none

def isFinite : Number → Bool
  | .finite _ _ => true
  | _ => false

def isNaN : Number → Bool
  | .nan _ => true
  | _ => false

/-- Zero of either sign. -/
def isZero : Number → Bool
  | .finite _ m => m.units == 0
  | _ => false

end Number

end TextTemplate
