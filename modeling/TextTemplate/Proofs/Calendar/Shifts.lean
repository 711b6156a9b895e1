import TextTemplate.Proofs.Calendar.Reading

/-!
# Shifting moments by days

A shift keeps the shape and the time of day of a plain moment and changes its day alone.

* `Moment.Later`: a plain moment that differs from another in its day only.
* `Moment.addDays?_eq_some_iff`, `Moment.exists_later_iff`: a shift gives exactly these moments, and
  there is one while the date is supported.
* `Moment.Later.symm`, `Moment.Later.trans_iff`: shifts can be taken back and put together.
* `Moment.Later.daysUntil_eq`: the days of a shift are the days counted between its ends.
* `Moment.daysUntil_comm`: days are counted alike in both directions, for moments of any shape.
-/

namespace TextTemplate.Calendar

theorem Date.addDays?_eq_some_iff {d d' : Date} {n : Int} :
    d.addDays? n = some d' ↔ d'.isSupported = true ∧ d'.days = d.days + n := by
  unfold Date.addDays?
  dsimp only
  constructor
  · intro h
    split at h
    · rename_i hSupported
      cases h
      exact ⟨hSupported, rfl⟩
    · cases h
  · rintro ⟨hSupported, hDays⟩
    obtain rfl : d' = ⟨d.days + n⟩ := congrArg Date.mk hDays
    exact if_pos hSupported

theorem Date.isSupported_iff {d : Date} :
    d.isSupported = true ↔ Date.first.days ≤ d.days ∧ d.days ≤ Date.last.days := by
  rw [Date.isSupported, Bool.and_eq_true, decide_eq_true_eq, decide_eq_true_eq]

namespace Moment

/-- What a moment consists of. -/
inductive Shape
  | zoned
  | here
  | date
deriving DecidableEq

def shape : Moment → Shape
  | .zoned _ _ => .zoned
  | .here _ => .here
  | .date _ => .date

/-- The second moment is plain and lies so many days after the first; nothing else differs. -/
structure Later (m : Moment) (n : Int) (m' : Moment) : Prop where
  plain : m'.Plain
  shape_eq : m'.shape = m.shape
  time_eq : m'.civilTime.time = m.civilTime.time
  days_eq : m'.civilTime.date.days = m.civilTime.date.days + n

theorem Plain.isLocal {m : Moment} (h : m.Plain) : m.isLocal = true := by
  cases m with
  | zoned utc offset => cases h
  | date d => rfl
  | here dt =>
    have hLeap : dt.time.isLeap = false := by
      rw [DayTime.isLeap, h.2.2]
      rfl
    exact congrArg not hLeap

theorem Plain.isSupported {m : Moment} (h : m.Plain) : m.civilTime.date.isSupported = true := by
  cases m with
  | zoned utc offset => cases h
  | date d => exact h
  | here dt => exact h.1

theorem addDays?_eq_some_iff {m m' : Moment} {n : Int} (h : m.Plain) :
    m.addDays? n = some m' ↔ m.Later n m' := by
  cases m with
  | zoned utc offset => cases h
  | date d =>
    rw [addDays?, Option.map_eq_some_iff]
    constructor
    · rintro ⟨d', hShift, rfl⟩
      obtain ⟨hSupported, hDays⟩ := Date.addDays?_eq_some_iff.mp hShift
      exact ⟨hSupported, rfl, rfl, hDays⟩
    · rintro ⟨hPlain, hShape, -, hDays⟩
      cases m' with
      | zoned utc offset => cases hPlain
      | here dt => cases hShape
      | date d' => exact ⟨d', Date.addDays?_eq_some_iff.mpr ⟨hPlain, hDays⟩, rfl⟩
  | here dt =>
    have hOrdinary : (!dt.time.isLeap || n == 0) = true := by
      rw [show (!dt.time.isLeap) = true from h.isLocal, Bool.true_or]
    rw [addDays?, DateTime.addDays?, if_pos hOrdinary, Option.map_map, Option.map_eq_some_iff]
    constructor
    · rintro ⟨d', hShift, rfl⟩
      obtain ⟨hSupported, hDays⟩ := Date.addDays?_eq_some_iff.mp hShift
      exact ⟨⟨hSupported, h.2⟩, rfl, rfl, hDays⟩
    · rintro ⟨hPlain, hShape, hTime, hDays⟩
      cases m' with
      | zoned utc offset => cases hPlain
      | date d' => cases hShape
      | here dt' =>
        obtain ⟨d', t'⟩ := dt'
        cases hTime
        exact ⟨d', Date.addDays?_eq_some_iff.mpr ⟨hPlain.1, hDays⟩, rfl⟩

theorem exists_later_iff {m : Moment} {n : Int} (h : m.Plain) :
    (∃ m', m.Later n m') ↔ Date.isSupported ⟨m.civilTime.date.days + n⟩ = true := by
  constructor
  · rintro ⟨m', hLater⟩
    have hDate : m'.civilTime.date = ⟨m.civilTime.date.days + n⟩ :=
      congrArg Date.mk hLater.days_eq
    exact hDate ▸ hLater.plain.isSupported
  · intro hSupported
    cases m with
    | zoned utc offset => cases h
    | date d => exact ⟨.date ⟨d.days + n⟩, hSupported, rfl, rfl, rfl⟩
    | here dt => exact ⟨.here ⟨⟨dt.date.days + n⟩, dt.time⟩, ⟨hSupported, h.2⟩, rfl, rfl, rfl⟩

namespace Later

variable {m m' m'' : Moment} {n k : Int}

theorem refl (h : m.Plain) : m.Later 0 m := ⟨h, rfl, rfl, (Int.add_zero _).symm⟩

theorem symm (hPlain : m.Plain) (h : m.Later n m') : m'.Later (-n) m :=
  ⟨hPlain, h.shape_eq.symm, h.time_eq.symm, by rw [h.days_eq, Int.add_neg_cancel_right]⟩

/-- What lies after the end of a shift lies after its start, by the days of both. -/
theorem trans_iff (h : m.Later n m') : m'.Later k m'' ↔ m.Later (n + k) m'' := by
  have hDays : m'.civilTime.date.days + k = m.civilTime.date.days + (n + k) := by
    rw [h.days_eq, Int.add_assoc]
  constructor
  · exact fun after => ⟨after.plain, after.shape_eq.trans h.shape_eq,
      after.time_eq.trans h.time_eq, after.days_eq.trans hDays⟩
  · exact fun after => ⟨after.plain, after.shape_eq.trans h.shape_eq.symm,
      after.time_eq.trans h.time_eq.symm, after.days_eq.trans hDays.symm⟩

/-- A shift is not longer than the supported years. -/
theorem natAbs_le (hPlain : m.Plain) (h : m.Later n m') : n.natAbs ≤ 191491528 := by
  have hYears : Date.last.days - Date.first.days = 191491528 := rfl
  have hStart := Date.isSupported_iff.mp hPlain.isSupported
  have hEnd := Date.isSupported_iff.mp h.plain.isSupported
  have hDays := h.days_eq
  omega

theorem instant_eq {m : Moment} (h : m.Plain) : m.instant = m.civilTime := by
  cases m with
  | zoned utc offset => cases h
  | here dt => rfl
  | date d => rfl

theorem daysUntil_eq (hPlain : m.Plain) (h : m.Later n m') : m.daysUntil m' = n := by
  have hDays : m'.civilTime.date.days - m.civilTime.date.days = n := by
    rw [h.days_eq]
    omega
  rw [daysUntil, instant_eq hPlain, instant_eq h.plain, DateTime.nanosUntil, h.time_eq, hDays,
    if_neg (Nat.lt_irrefl _), if_neg (Nat.lt_irrefl _), Int.sub_self, Int.sub_self, Int.add_zero,
    Int.add_zero, Int.add_zero, Int.mul_assoc]
  exact Int.mul_tdiv_cancel n (by decide)

end Later

theorem nanosUntil_comm (a b : DateTime) : b.nanosUntil a = -(a.nanosUntil b) := by
  unfold DateTime.nanosUntil secondsPerDay nanosPerSecond
  dsimp only
  rcases Nat.lt_trichotomy a.time.second b.time.second with hLess | hEqual | hMore
  · rw [if_neg (Nat.lt_asymm hLess), if_pos hLess, if_pos hLess]
    split <;> omega
  · rw [hEqual, if_neg (Nat.lt_irrefl _), if_neg (Nat.lt_irrefl _)]
    omega
  · rw [if_pos hMore, if_neg (Nat.lt_asymm hMore), if_pos hMore]
    split <;> omega

/-- The days from one moment to another are those back, taken away. -/
theorem daysUntil_comm (a b : Moment) : b.daysUntil a = -(a.daysUntil b) := by
  rw [daysUntil, daysUntil, nanosUntil_comm, Int.neg_tdiv]

end Moment

end TextTemplate.Calendar
