import TextTemplate.Number.Numeral
import TextTemplate.Number.Order
import TextTemplate.Path

/-!
# Numbers are read back from their digits

* `Number.exists_numeral`: the text of a finite number is a sign and a numeral that stands for the
  same magnitude. Zero loses its sign.
* `Number.whole?_ofNat_of_le`: whole numbers of up to 53 binary digits are kept.
* `Path.whole?_ofIndex`: the digits of an index are read as that index, also where the number they
  stand for is rounded up to the bound of indices.
-/

namespace TextTemplate

/-- Digits, and further ones after a point. -/
def Numeral.written (whole fraction : List Char) : List Char :=
  whole ++ (if fraction = [] then [] else '.' :: fraction)

/-- Digits before and after a point stand for a decimal. The clamp of exponents is not reached. -/
theorem Numeral.value_written (whole fraction : List Char) :
    Numeral.value ⟨false, whole, fraction, 0⟩
      = Number.ofDecimal false (Nat.ofDigitChars 10 (whole ++ fraction) 0)
          (-(fraction.length : Int)) := by
  have hClamp : Numeral.clampExponent (whole ++ fraction).length (0 - (fraction.length : Int))
      = -(fraction.length : Int) := by
    rw [Numeral.clampExponent, List.length_append]
    omega
  rw [Numeral.value]
  dsimp only
  rw [hClamp]

/-! ## Decimals in digits -/

/-- The digits of a decimal with places, with zeros in front of them. -/
def Decimal.padded (digits e : Nat) : List Char :=
  List.replicate (e + 2 - (Nat.toDigits 10 digits).length) '0' ++ Nat.toDigits 10 digits

theorem Decimal.places_ofNat (digits e : Nat) :
    Decimal.places ⟨digits, .ofNat e⟩ = (Nat.toDigits 10 digits ++ List.replicate e '0', []) := rfl

theorem Decimal.places_negSucc (digits e : Nat) :
    Decimal.places ⟨digits, .negSucc e⟩
      = ((padded digits e).take ((padded digits e).length - (e + 1)),
        (padded digits e).drop ((padded digits e).length - (e + 1))) := by
  rw [← List.splitAt_eq]
  rfl

theorem Decimal.length_padded (digits e : Nat) : e + 2 ≤ (padded digits e).length := by
  rw [padded, List.length_append, List.length_replicate]
  omega

theorem isDigit_of_mem_digits {n : Nat} {c : Char} (h : c ∈ Nat.toDigits 10 n) :
    c.isDigit = true := Nat.isDigit_of_mem_toDigits (by decide) (by decide) h

theorem isDigit_of_mem_zeros {n : Nat} {c : Char} (h : c ∈ List.replicate n '0') :
    c.isDigit = true := by
  rw [(List.mem_replicate.mp h).2]
  rfl

theorem Decimal.isDigit_of_mem_places (d : Decimal) {c : Char}
    (h : c ∈ d.places.1 ∨ c ∈ d.places.2) : c.isDigit = true := by
  obtain ⟨digits, exponent⟩ := d
  cases exponent with
  | ofNat e =>
    rw [places_ofNat] at h
    rcases h with h | h
    · rcases List.mem_append.mp h with h | h
      · exact isDigit_of_mem_digits h
      · exact isDigit_of_mem_zeros h
    · cases h
  | negSucc e =>
    have hPadded : c ∈ padded digits e := by
      rw [places_negSucc] at h
      rcases h with h | h
      · exact List.mem_of_mem_take h
      · exact List.mem_of_mem_drop h
    rcases List.mem_append.mp hPadded with h | h
    · exact isDigit_of_mem_zeros h
    · exact isDigit_of_mem_digits h

theorem Decimal.places_ne_nil (d : Decimal) : d.places.1 ≠ [] := by
  obtain ⟨digits, exponent⟩ := d
  cases exponent with
  | ofNat e =>
    rw [places_ofNat]
    simp
  | negSucc e =>
    have hLength := length_padded digits e
    rw [places_negSucc]
    refine List.ne_nil_of_length_pos ?_
    rw [List.length_take]
    omega

/-- The digits of a decimal are read as the number nearest to it. -/
theorem Decimal.value_places (d : Decimal) :
    Numeral.value ⟨false, d.places.1, d.places.2, 0⟩
      = Number.ofRatio false d.ratio.1 d.ratio.2 := by
  obtain ⟨digits, exponent⟩ := d
  rw [Numeral.value_written]
  cases exponent with
  | ofNat e =>
    have hDigits : Nat.ofDigitChars 10 (Nat.toDigits 10 digits ++ List.replicate e '0' ++ []) 0
        = digits * Nat.pow 10 e := by
      rw [List.append_nil, Nat.ofDigitChars_append, Nat.ofDigitChars_ten_toDigits,
        Nat.ofDigitChars_replicate_zero, Nat.mul_comm]
      rfl
    have hExponent : (-(([] : List Char).length : Int)) = Int.ofNat 0 := rfl
    rw [places_ofNat]
    dsimp only
    rw [hDigits, hExponent]
    simp only [Number.ofDecimal, Decimal.ratio, powerOfTen_zero, Nat.mul_one]
  | negSucc e =>
    have hLength := length_padded digits e
    have hDigits : Nat.ofDigitChars 10 (padded digits e) 0 = digits := by
      rw [padded, Nat.ofDigitChars_append, Nat.ofDigitChars_replicate_zero, Nat.mul_zero,
        Nat.ofDigitChars_ten_toDigits]
    have hPlaces : (padded digits e).length - ((padded digits e).length - (e + 1)) = e + 1 := by
      omega
    have hExponent : (-((e + 1 : Nat) : Int)) = Int.negSucc e := rfl
    rw [places_negSucc]
    dsimp only
    rw [List.take_append_drop, hDigits, List.length_drop, hPlaces, hExponent]
    simp only [Number.ofDecimal, Decimal.ratio]

/-! ## Texts of numbers -/

theorem Number.ofRatio_eq_finite {negative : Bool} {num den : Nat} {m : Magnitude}
    (h : Magnitude.nearest? num den = some m) :
    Number.ofRatio negative num den = .finite negative m := by
  unfold Number.ofRatio
  generalize Magnitude.nearest? num den = nearest at h
  subst h
  rfl

theorem Number.same_self_of_finite (negative : Bool) (m : Magnitude) :
    Number.same (.finite negative m) (.finite negative m) = true := by
  simp [Number.same, Number.position?]

/-- The text of a finite number is a sign and a numeral for its magnitude. -/
theorem Number.exists_numeral {x : Number} (h : x.isFinite = true) :
    ∃ negative whole fraction m,
      x.text = Number.signText negative ++ Numeral.written whole fraction ∧
      whole ≠ [] ∧ (∀ c ∈ whole, c.isDigit = true) ∧ (∀ c ∈ fraction, c.isDigit = true) ∧
      Numeral.value ⟨false, whole, fraction, 0⟩ = .finite false m ∧
      Number.same (.finite negative m) x = true := by
  cases x with
  | infinite | nan => cases h
  | finite negative m =>
    rw [Number.text]
    by_cases hZero : (Number.finite negative m).isZero = true
    · have hUnits : m.units = 0 := by simpa [Number.isZero] using hZero
      refine ⟨false, ['0'], [], Magnitude.zero, by rw [if_pos hZero]; rfl, by simp, by simp,
        by simp, by decide +kernel, ?_⟩
      cases negative <;> simp [Number.same, Number.position?, hUnits, Magnitude.zero]
    · rw [if_neg hZero]
      have hReads := Decimal.shortest_reads .up m
      have hPlain : Number.plain (.finite negative m)
          = Number.signText negative ++ (Decimal.shortest .up m).places.1
            ++ (if (Decimal.shortest .up m).places.2 = [] then []
              else '.' :: (Decimal.shortest .up m).places.2) := rfl
      refine ⟨negative, _, _, m, by rw [hPlain, List.append_assoc]; rfl,
        (Decimal.shortest .up m).places_ne_nil,
        fun c hc => Decimal.isDigit_of_mem_places _ (Or.inl hc),
        fun c hc => Decimal.isDigit_of_mem_places _ (Or.inr hc), ?_,
        Number.same_self_of_finite negative m⟩
      rw [Decimal.value_places]
      exact Number.ofRatio_eq_finite hReads

/-! ## Indices -/

/-- Digits without a point are read as the number nearest to what they stand for. -/
theorem Numeral.value_whole (whole : List Char) :
    Numeral.value ⟨false, whole, [], 0⟩ = Number.ofNat (Nat.ofDigitChars 10 whole 0) := by
  have hExponent : (-(([] : List Char).length : Int)) = Int.ofNat 0 := rfl
  rw [Numeral.value_written, List.append_nil, hExponent]
  simp only [Number.ofDecimal, Number.ofNat, Decimal.powerOfTen_zero, Nat.mul_one]

theorem Numeral.value_digits (n : Nat) :
    Numeral.value ⟨false, Nat.toDigits 10 n, [], 0⟩ = Number.ofNat n := by
  rw [Numeral.value_whole, Nat.ofDigitChars_ten_toDigits]

theorem Magnitude.powerOfTwo_add (k l : Nat) :
    Nat.pow 2 (k + l) = Nat.pow 2 k * Nat.pow 2 l := Nat.pow_add 2 k l

theorem Magnitude.mul_powerOfTwo_lt {n k l : Nat} (m : Nat) (h : n ≤ Nat.pow 2 k) (hLess : k < l) :
    n * Nat.pow 2 m < Nat.pow 2 (l + m) := by
  rw [powerOfTwo_add]
  refine (Nat.mul_lt_mul_right (powerOfTwo_pos m)).mpr (Nat.lt_of_le_of_lt h ?_)
  exact Nat.pow_lt_pow_right (Nat.lt_succ_self 1) hLess

/-- The distance between neighbouring magnitudes grows no faster than the count. -/
theorem Magnitude.spacing_mul_dvd (n k : Nat) :
    spacing (n * Nat.pow 2 k) ∣ spacing n * Nat.pow 2 k := by
  by_cases hn : n = 0
  · subst hn
    simp [spacing]
  have hLog : (n * Nat.pow 2 k).log2 = n.log2 + k := by
    refine log2_eq ?_ ?_
    · rw [powerOfTwo_add]
      exact Nat.mul_le_mul_right _ (Nat.log2_self_le hn)
    · rw [Nat.add_right_comm, powerOfTwo_add]
      exact (Nat.mul_lt_mul_right (powerOfTwo_pos k)).mpr Nat.lt_log2_self
  unfold spacing
  rw [← powerOfTwo_add, hLog]
  exact Nat.pow_dvd_pow 2 (by omega)

/-- Whole numbers of up to 53 binary digits are doubles. -/
theorem Magnitude.exists_units {n : Nat} (h : n ≤ Nat.pow 2 53) :
    ∃ m : Magnitude, m.units = n * one := by
  have hSpacing : spacing n ∣ n := by
    rcases Nat.lt_or_eq_of_le h with hLess | rfl
    · rw [spacing_of_lt hLess]
      exact Nat.one_dvd n
    · decide
  have hBound : n * one < limit := by
    unfold one limit
    exact mul_powerOfTwo_lt unitExponent h (by decide)
  have hOne : spacing (n * one) ∣ spacing n * one := by
    unfold one
    exact spacing_mul_dvd n unitExponent
  refine ⟨⟨n * one, Nat.mod_eq_zero_of_dvd ?_, hBound⟩, rfl⟩
  exact Nat.dvd_trans hOne (Nat.mul_dvd_mul_right hSpacing one)

theorem Number.whole?_ofNat_of_le {n : Nat} (h : n ≤ Nat.pow 2 53) :
    (Number.ofNat n).whole? = some (n : Int) := by
  obtain ⟨m, hUnits⟩ := Magnitude.exists_units h
  have hNearest := Magnitude.nearest?_units m
  rw [hUnits] at hNearest
  have hWhole : m.units % Magnitude.one = 0 := by
    rw [hUnits]
    exact Nat.mul_mod_left _ _
  rw [Number.ofNat, Number.ofRatio_eq_finite hNearest, Number.whole?, if_pos hWhole, hUnits,
    Nat.mul_div_cancel _ Magnitude.one_pos]
  rfl

/-- A whole number that is a double is read as itself. -/
theorem Number.whole?_ofNat {x : Number} {n : Nat} (h : x.whole? = some (n : Int)) :
    (Number.ofNat n).whole? = some (n : Int) := by
  cases x with
  | infinite | nan => cases h
  | finite negative m =>
    rw [Number.whole?] at h
    split at h
    · rename_i hWhole
      have hn : m.units / Magnitude.one = n := by
        generalize m.units / Magnitude.one = quotient at h ⊢
        cases negative <;> simp at h <;> omega
      have hUnits : m.units = n * Magnitude.one := by
        rw [← hn]
        exact (Nat.div_mul_cancel (Nat.dvd_of_mod_eq_zero hWhole)).symm
      have hNearest := Magnitude.nearest?_units m
      rw [hUnits] at hNearest
      rw [Number.ofNat, Number.ofRatio_eq_finite hNearest, Number.whole?, if_pos hWhole, hn]
      rfl
    · cases h

/-- What the digits of an index stand for is read as the same index. -/
theorem Path.whole?_ofIndex {x : Number} {n : Nat} (h : x.whole? = some (n : Int)) :
    ∃ read : Nat, (Number.ofNat (min n (Path.indexLimit - 1))).whole? = some (read : Int) ∧
      min read (Path.indexLimit - 1) = min n (Path.indexLimit - 1) := by
  by_cases hSmall : n ≤ Path.indexLimit - 1
  · rw [Nat.min_eq_left hSmall]
    exact ⟨n, Number.whole?_ofNat h, Nat.min_eq_left hSmall⟩
  · -- The largest index is no double: it is rounded to the bound, which stands for it.
    rw [Nat.min_eq_right (by omega)]
    exact ⟨Path.indexLimit, by decide +kernel, by decide +kernel⟩

end TextTemplate
