import TextTemplate.Library.Dates
import TextTemplate.Proofs.Calendar.Shifts
import TextTemplate.Proofs.Library.WholeNumbers

/-!
# Arithmetic with days

Days are added to dates and local times as whole numbers are added to each other: no step is lost
between a moment and its text.

* `toMoment_text`, `plain_of_toMoment`: plain moments and the texts that they are taken from.
* `addDays_eq_ok_iff`: days are added where the result is supported, and no bound of 64 bits is met
  before that.
* `addDays_neg`, `addDays_addDays_iff`: the days are taken away again, and adding days twice is
  adding their sum.
* `addDays_acts`: the law of both functions, with the days counted back.
-/

namespace TextTemplate.Library

open Calendar Calendar.Moment

/-! ## Moments in values -/

theorem toMoment_of_parse? {s : String} {m : Moment}
    (h : parse? (Text.trim s.toList) = some m) : toMoment (.text s) = .ok m := by
  unfold toMoment
  dsimp only
  rw [h]

theorem toMoment_text {m : Moment} (h : m.Plain) : toMoment (textValue m.text) = .ok m :=
  toMoment_of_parse? (by
    rw [String.toList_ofList, Text.trim_of_not_blank (text_not_blank h), parse?_text h])

theorem plain_of_toMoment {a : Value} {m : Moment} (h : toMoment a = .ok m)
    (hLocal : m.isLocal = true) : m.Plain := by
  unfold toMoment at h
  split at h
  · dsimp only at h
    split at h
    · rename_i hParse
      cases h
      exact plain_of_parse? hParse hLocal
    · cases h
  · cases h

theorem daysBetween_eq {a b : Value} {ma mb : Moment} (ha : toMoment a = .ok ma)
    (hb : toMoment b = .ok mb) :
    daysBetween [a, b] = .ok (.number (Number.ofInt (ma.daysUntil mb))) := by
  unfold daysBetween binary
  dsimp only
  rw [ha, hb]
  rfl

/-! ## Adding days -/

section Plain

variable {m m' : Moment} {a b t : Value} {n : Int}

/-- The supported years are passed before the bounds of 64 bits. -/
theorem later_clampInteger_iff (h : m.Plain) : m.Later (clampInteger n) m' ↔ m.Later n m' := by
  have hBound : (Nat.pow 2 63 : Int) = 9223372036854775808 := rfl
  have hClamp : m.Later (clampInteger n) m' ∨ m.Later n m' → clampInteger n = n := by
    unfold clampInteger
    rintro (hLater | hLater)
    · have := hLater.natAbs_le h
      omega
    · have := hLater.natAbs_le h
      omega
  exact ⟨fun hLater => hClamp (.inl hLater) ▸ hLater,
    fun hLater => (hClamp (.inr hLater)).symm ▸ hLater⟩

theorem addDays_eq_ok_iff (ha : toMoment a = .ok m) (h : m.Plain) (hb : IsWhole b n) :
    addDays [a, b] = .ok t ↔ ∃ m', m.Later n m' ∧ t = textValue m'.text := by
  have hShift (m' : Moment) : m.addDays? (clampInteger n) = some m' ↔ m.Later n m' :=
    (addDays?_eq_some_iff h).trans (later_clampInteger_iff h)
  simp only [← hShift]
  unfold addDays binary
  dsimp only
  rw [ha, toInteger_of_isWhole hb]
  dsimp only
  cases m.addDays? (clampInteger n) with
  | none => exact iff_of_false nofun fun ⟨_, hSome, _⟩ => nomatch hSome
  | some shifted =>
    constructor
    · intro hText
      exact ⟨shifted, rfl, (Except.ok.inj hText).symm⟩
    · rintro ⟨m', hSome, rfl⟩
      cases hSome
      rfl

theorem exists_addDays_iff (ha : toMoment a = .ok m) (h : m.Plain) (hb : IsWhole b n) :
    (∃ t, addDays [a, b] = .ok t) ↔
      Date.isSupported ⟨m.civilTime.date.days + n⟩ = true := by
  rw [← exists_later_iff h]
  constructor
  · rintro ⟨t, hAdd⟩
    obtain ⟨m', hLater, -⟩ := (addDays_eq_ok_iff ha h hb).mp hAdd
    exact ⟨m', hLater⟩
  · rintro ⟨m', hLater⟩
    exact ⟨_, (addDays_eq_ok_iff ha h hb).mpr ⟨m', hLater, rfl⟩⟩

/-- Adding days twice is adding their sum, where the first result is supported. -/
theorem addDays_addDays_iff {c sum u : Value} {k : Int} (ha : toMoment a = .ok m) (h : m.Plain)
    (hLater : m.Later n m') (hc : IsWhole c k) (hSum : IsWhole sum (n + k)) :
    addDays [textValue m'.text, c] = .ok u ↔ addDays [a, sum] = .ok u := by
  rw [addDays_eq_ok_iff (toMoment_text hLater.plain) hLater.plain hc, addDays_eq_ok_iff ha h hSum]
  simp only [hLater.trans_iff]

theorem addDays_zero {zero : Value} (ha : toMoment a = .ok m) (h : m.Plain)
    (hZero : IsWhole zero 0) : addDays [a, zero] = .ok (textValue m.text) :=
  (addDays_eq_ok_iff ha h hZero).mpr ⟨m, .refl h, rfl⟩

/-- The days that were added are taken away again. -/
theorem addDays_neg {negated : Value} (h : m.Plain) (hLater : m.Later n m')
    (hNegated : IsWhole negated (-n)) :
    addDays [textValue m'.text, negated] = .ok (textValue m.text) :=
  (addDays_eq_ok_iff (toMoment_text hLater.plain) hLater.plain hNegated).mpr
    ⟨m, hLater.symm h, rfl⟩

/-- The value is what adding so many days to another one gives, which is read as this moment. -/
structure DaysAdded (a : Value) (m : Moment) (n : Int) (t : Value) : Prop where
  /-- The sum is read again, in the shape of the moment. -/
  readBack : ∃ m', toMoment t = .ok m' ∧ m'.isLocal = true ∧ m'.shape = m.shape
  between : ∃ x, daysBetween [a, t] = .ok (.number x) ∧ x.whole? = some n
  back : ∀ negated zero, IsWhole negated (-n) → IsWhole zero 0 →
    ∃ u, addDays [t, negated] = .ok u ∧ addDays [a, zero] = .ok u
  twice : ∀ (c sum : Value) (k : Int), IsWhole c k → IsWhole sum (n + k) →
    ∀ u, addDays [t, c] = .ok u ↔ addDays [a, sum] = .ok u

theorem daysAdded (ha : toMoment a = .ok m) (h : m.Plain) (hLater : m.Later n m') :
    DaysAdded a m n (textValue m'.text) := by
  have ht := toMoment_text hLater.plain
  refine ⟨⟨m', ht, hLater.plain.isLocal, hLater.shape_eq⟩, ⟨_, daysBetween_eq ha ht, ?_⟩,
    fun negated zero hNegated hZero => ?_,
    fun c sum k hc hSum u => addDays_addDays_iff ha h hLater hc hSum⟩
  · rw [hLater.daysUntil_eq h]
    have hExact : 191491528 ≤ Nat.pow 2 53 := by decide
    exact Number.whole?_ofInt (Nat.le_trans (hLater.natAbs_le h) hExact)
  · exact ⟨_, addDays_neg h hLater hNegated, addDays_zero ha h hZero⟩

end Plain

/-- Days act on dates and on local times outside of leap seconds, as far as dates are supported: the
sum has the shape of the moment, the days between the two are those added, adding them back gives
the moment, and adding twice is adding the sum. Days between moments of any shape change their sign
with the direction. -/
theorem addDays_acts :
    (∀ (a : Value) (m : Moment), toMoment a = .ok m → m.isLocal = true →
      ∀ (b : Value) (n : Int), IsWhole b n →
        ((∃ t, addDays [a, b] = .ok t) ↔
          Date.isSupported ⟨m.civilTime.date.days + n⟩ = true) ∧
        ∀ t, addDays [a, b] = .ok t → DaysAdded a m n t) ∧
      ∀ (a b : Value) (ma mb : Moment), toMoment a = .ok ma → toMoment b = .ok mb →
        ∃ x y, daysBetween [a, b] = .ok (.number x) ∧ daysBetween [b, a] = .ok (.number y) ∧
          y.same x.neg = true := by
  refine ⟨fun a m ha hLocal b n hb => ?_, fun a b ma mb ha hb => ?_⟩
  · have hPlain := plain_of_toMoment ha hLocal
    refine ⟨exists_addDays_iff ha hPlain hb, fun t hAdd => ?_⟩
    obtain ⟨m', hLater, rfl⟩ := (addDays_eq_ok_iff ha hPlain hb).mp hAdd
    exact daysAdded ha hPlain hLater
  · refine ⟨_, _, daysBetween_eq ha hb, daysBetween_eq hb ha, ?_⟩
    rw [daysUntil_comm]
    exact Number.same_neg_ofInt _

/-- Sixty days from the end of a year to a leap day, and the day after. -/
theorem addDays_acts_leapDay :
    let start := Value.text "2023-12-31 23:30:00"
    let leapDay := Value.text "2024-02-29T23:30:00"
    let days (n : Int) := Value.number (Number.ofInt n)
    addDays [start, days 60] = .ok leapDay ∧
      (∃ m', toMoment leapDay = .ok m' ∧ m'.isLocal = true ∧ m'.shape = .here) ∧
      (∃ x, daysBetween [start, leapDay] = .ok (.number x) ∧ x.whole? = some 60) ∧
      (∃ u, addDays [leapDay, days (-60)] = .ok u ∧ addDays [start, days 0] = .ok u) ∧
      (∀ u, addDays [leapDay, days 1] = .ok u ↔ addDays [start, days 61] = .ok u) ∧
      ∃ x y, daysBetween [start, leapDay] = .ok (.number x) ∧
        daysBetween [leapDay, start] = .ok (.number y) ∧ y.same x.neg = true := by
  intro start leapDay days
  have hDays {n : Int} (h : n.natAbs ≤ Nat.pow 2 53) : IsWhole (days n) n :=
    ⟨_, rfl, Number.whole?_ofInt h⟩
  have hSixty : IsWhole (days 60) 60 := hDays (by decide)
  have hStart : toMoment start = .ok (.here ⟨⟨19722⟩, 84600, 0⟩) :=
    toMoment_of_parse? (by decide +kernel)
  have hLeapDay : toMoment leapDay = .ok (.here ⟨⟨19782⟩, 84600, 0⟩) :=
    toMoment_of_parse? (by decide +kernel)
  have hPlain := plain_of_toMoment hStart rfl
  have hLater : (Moment.here ⟨⟨19722⟩, 84600, 0⟩).Later 60 (.here ⟨⟨19782⟩, 84600, 0⟩) :=
    ⟨plain_of_toMoment hLeapDay rfl, rfl, rfl, rfl⟩
  have hText : leapDay = textValue (Moment.here ⟨⟨19782⟩, 84600, 0⟩).text :=
    congrArg Value.text (by decide +kernel)
  have hAdd : addDays [start, days 60] = .ok leapDay :=
    (addDays_eq_ok_iff hStart hPlain hSixty).mpr ⟨_, hLater, hText⟩
  obtain ⟨hReadBack, hBetween, hBack, hTwice⟩ :=
    (addDays_acts.1 _ _ hStart rfl _ _ hSixty).2 _ hAdd
  exact ⟨hAdd, hReadBack, hBetween, hBack _ _ (hDays (by decide)) (hDays (by decide)),
    hTwice _ _ 1 (hDays (by decide)) (hDays (by decide)), addDays_acts.2 _ _ _ _ hStart hLeapDay⟩

end TextTemplate.Library
