import TextTemplate.Calendar.Date

/-!
# Days and dates of the calendar

Every day has a year, a month and a day of the month that exist, and it is the day of these three.
A day of a cycle of 400 years is taken apart into centuries, spans of four years, years and days:
only the last year of a span has a leap day, and not in the last span of a century unless the
century is the last one.

* `exists_counted`: every day of a cycle is counted in this way.
* `civil_eq`: the year, month and day of a date in terms of its count.
* `ofCivil_civil`: a date is the date of its year, month and day.
* `ofCivil?_civil`: these exist, so a supported date is found from them.
-/

namespace TextTemplate.Calendar

/-! ## Counting a cycle -/

/-- The place of a day in a cycle of years that start in March: the century, the span of four years
in it, the year of the span and the day of the year, all from 0. -/
structure Counted (dayOfCycle century span year day : Int) : Prop where
  century_mem : 0 ≤ century ∧ century ≤ 3
  span_mem : 0 ≤ span ∧ span ≤ 24
  year_mem : 0 ≤ year ∧ year ≤ 3
  day_mem : 0 ≤ day ∧ day ≤ 365
  sum : dayOfCycle = 36524 * century + 1461 * span + 365 * year + day
  leap : day = 365 → year = 3 ∧ (span = 24 → century = 3)

theorem exists_counted {dayOfCycle : Int} (h : 0 ≤ dayOfCycle) (hLess : dayOfCycle < cycleDays) :
    ∃ century span year day, Counted dayOfCycle century span year day := by
  rw [cycleDays] at hLess
  -- The last century is one day longer, and so is the last year of a span.
  obtain ⟨century, rest, hCentury⟩ : ∃ century rest, 0 ≤ century ∧ century ≤ 3 ∧ 0 ≤ rest ∧
      rest ≤ 36524 ∧ dayOfCycle = 36524 * century + rest ∧ (rest = 36524 → century = 3) := by
    refine ⟨min (dayOfCycle / 36524) 3, dayOfCycle - 36524 * min (dayOfCycle / 36524) 3, ?_⟩
    omega
  obtain ⟨year, day, hYear⟩ : ∃ year day, 0 ≤ year ∧ year ≤ 3 ∧ 0 ≤ day ∧ day ≤ 365 ∧
      rest % 1461 = 365 * year + day ∧ (day = 365 → year = 3) := by
    refine ⟨min (rest % 1461 / 365) 3, rest % 1461 - 365 * min (rest % 1461 / 365) 3, ?_⟩
    omega
  refine ⟨century, rest / 1461, year, day, ?_⟩
  constructor <;> omega

namespace Counted

variable {dayOfCycle century span year day : Int}

/-- The year of the cycle is found by leaving out the leap days before the day. -/
theorem yearOfCycle_eq (h : Counted dayOfCycle century span year day) :
    (dayOfCycle - dayOfCycle / 1460 + dayOfCycle / 36524 - dayOfCycle / 146096) / 365
      = 100 * century + 4 * span + year := by
  obtain ⟨hCentury, hSpan, hYear, hDay, hSum, hLeap⟩ := h
  have hLeaps : dayOfCycle / 36524 - dayOfCycle / 146096 = century := by
    by_cases hLast : dayOfCycle = 146096
    · omega
    · have hZero : dayOfCycle / 146096 = 0 := by omega
      have hCenturies : dayOfCycle / 36524 = century := by omega
      omega
  rw [Int.add_sub_assoc, hLeaps]
  omega

/-- The leap days before a year of the cycle. -/
theorem leapDays_eq (h : Counted dayOfCycle century span year day) :
    (100 * century + 4 * span + year) / 4 = 25 * century + span ∧
      (100 * century + 4 * span + year) / 100 = century := by
  obtain ⟨hCentury, hSpan, hYear, hDay, hSum, hLeap⟩ := h
  omega

end Counted

/-! ## Months -/

/-- The month, from March as 0, of a day of the year. -/
def monthFromMarch (day : Int) : Int := (5 * day + 2) / 153

/-- The day of the year on which a month starts. -/
def monthStart (month : Int) : Int := (153 * month + 2) / 5

theorem monthFromMarch_mem {day : Int} (h : 0 ≤ day ∧ day ≤ 365) :
    0 ≤ monthFromMarch day ∧ monthFromMarch day ≤ 11 := by
  unfold monthFromMarch
  omega

theorem monthStart_le (day : Int) :
    monthStart (monthFromMarch day) ≤ day ∧ day < monthStart (monthFromMarch day + 1) := by
  unfold monthStart monthFromMarch
  omega

/-- The date of a month of a year that starts in March: January and February belong to the next
year. -/
def fromMarch (year month : Int) (dayOfMonth : Nat) : Civil :=
  if month < 10 then ⟨year, (month + 3).toNat, dayOfMonth⟩
  else ⟨year + 1, (month - 9).toNat, dayOfMonth⟩

namespace Date

theorem ofCivil_fromMarch {month : Int} (h : 0 ≤ month ∧ month ≤ 11) (year : Int)
    (dayOfMonth : Nat) : ofCivil (fromMarch year month dayOfMonth)
      = ⟨year / 400 * cycleDays + (year % 400 * 365 + year % 400 / 4 - year % 400 / 100
          + (monthStart month + dayOfMonth - 1)) - cycleStart⟩ := by
  unfold fromMarch
  split
  · rename_i hMonth
    have hLate : ¬ (month + 3).toNat ≤ 2 := by omega
    have hBack : ((month + 3).toNat : Int) - 3 = month := by omega
    unfold ofCivil
    dsimp only
    rw [if_neg hLate, if_neg hLate, hBack]
    rfl
  · have hEarly : (month - 9).toNat ≤ 2 := by omega
    have hBack : ((month - 9).toNat : Int) + 9 = month := by omega
    unfold ofCivil
    dsimp only
    rw [if_pos hEarly, if_pos hEarly, hBack, Int.add_sub_cancel]
    rfl

/-- The day of the month, from 1. -/
def dayOfMonth (day : Int) : Nat := (day - monthStart (monthFromMarch day) + 1).toNat

theorem dayOfMonth_eq (day : Int) :
    (dayOfMonth day : Int) = day - monthStart (monthFromMarch day) + 1 := by
  have hStart := (monthStart_le day).1
  unfold dayOfMonth
  omega

theorem civil_eq {d : Date} {century span year day : Int}
    (h : Counted ((d.days + cycleStart) % cycleDays) century span year day) :
    d.civil = fromMarch
      (100 * century + 4 * span + year + (d.days + cycleStart) / cycleDays * 400)
      (monthFromMarch day) (dayOfMonth day) := by
  have hDay : (d.days + cycleStart) % cycleDays - (365 * (100 * century + 4 * span + year)
      + (100 * century + 4 * span + year) / 4 - (100 * century + 4 * span + year) / 100) = day := by
    obtain ⟨hSpans, hCenturies⟩ := h.leapDays_eq
    rw [hSpans, hCenturies, h.sum]
    omega
  unfold civil
  dsimp only
  rw [h.yearOfCycle_eq, hDay]
  rfl

theorem exists_counted_days (d : Date) : ∃ century span year day,
    Counted ((d.days + cycleStart) % cycleDays) century span year day :=
  exists_counted (Int.emod_nonneg _ (by decide)) (Int.emod_lt_of_pos _ (by decide))

/-- A date is the date of its year, month and day. -/
theorem ofCivil_civil (d : Date) : ofCivil d.civil = d := by
  obtain ⟨century, span, year, day, h⟩ := d.exists_counted_days
  rw [civil_eq h, ofCivil_fromMarch (monthFromMarch_mem h.day_mem)]
  obtain ⟨hSpans, hCenturies⟩ := h.leapDays_eq
  have hDayOfMonth := dayOfMonth_eq day
  have hYear : 0 ≤ 100 * century + 4 * span + year ∧ 100 * century + 4 * span + year < 400 := by
    have := h.century_mem
    have := h.span_mem
    have := h.year_mem
    omega
  have hDays := Int.mul_ediv_add_emod (d.days + cycleStart) cycleDays
  rw [Int.add_mul_ediv_right _ _ (by decide), Int.add_mul_emod_self_right,
    Int.ediv_eq_zero_of_lt hYear.1 hYear.2, Int.emod_eq_of_lt hYear.1 hYear.2, hSpans, hCenturies,
    hDayOfMonth]
  have hSum := h.sum
  congr 1
  rw [Int.zero_add, Int.mul_comm]
  omega

/-- Does the day exist in its month? -/
def Exists (c : Civil) : Prop :=
  1 ≤ c.month ∧ c.month ≤ 12 ∧ 1 ≤ c.day ∧ c.day ≤ daysInMonth c.year c.month

theorem month_fromMarch {month : Int} (h : 0 ≤ month ∧ month ≤ 11) (year : Int)
    (dayOfMonth : Nat) :
    1 ≤ (fromMarch year month dayOfMonth).month ∧ (fromMarch year month dayOfMonth).month ≤ 12 := by
  unfold fromMarch
  split <;> dsimp only <;> omega

theorem day_fromMarch (year month : Int) (dayOfMonth : Nat) :
    (fromMarch year month dayOfMonth).day = dayOfMonth := by
  unfold fromMarch
  split <;> rfl

/-- All months but February, the last one, reach up to the next. -/
theorem daysInMonth_fromMarch {month : Int} (h : 0 ≤ month ∧ month ≤ 10) (year : Int)
    (dayOfMonth : Nat) :
    (daysInMonth (fromMarch year month dayOfMonth).year
        (fromMarch year month dayOfMonth).month : Int)
      = monthStart (month + 1) - monthStart month := by
  obtain rfl | rfl | rfl | rfl | rfl | rfl | rfl | rfl | rfl | rfl | rfl :
      month = 0 ∨ month = 1 ∨ month = 2 ∨ month = 3 ∨ month = 4 ∨ month = 5 ∨ month = 6 ∨
        month = 7 ∨ month = 8 ∨ month = 9 ∨ month = 10 := by omega
  all_goals rfl

theorem isLeapYear_iff {year : Int} : isLeapYear year = true ↔
    year % 4 = 0 ∧ (year % 100 ≠ 0 ∨ year % 400 = 0) := by
  simp [isLeapYear]

/-- The leap day of a cycle is in a leap year. -/
theorem isLeapYear_of_counted {dayOfCycle century span year : Int}
    (h : Counted dayOfCycle century span year 365) (cycle : Int) :
    isLeapYear (100 * century + 4 * span + year + cycle * 400 + 1) = true := by
  obtain ⟨hYear, hLast⟩ := h.leap rfl
  have hCentury := h.century_mem
  have hSpan := h.span_mem
  rw [isLeapYear_iff]
  omega

/-- Every day of a year is in its month, if the last one is there in leap years only. -/
theorem dayOfMonth_le {day year : Int} (h : 0 ≤ day ∧ day ≤ 365)
    (hLeap : day = 365 → isLeapYear (year + 1) = true) (n : Nat) :
    dayOfMonth day ≤ daysInMonth (fromMarch year (monthFromMarch day) n).year
      (fromMarch year (monthFromMarch day) n).month := by
  have hMonth := monthFromMarch_mem h
  have hDay := dayOfMonth_eq day
  have hNext := (monthStart_le day).2
  by_cases hFebruary : monthFromMarch day = 11
  · rw [hFebruary] at hDay ⊢
    have hStart : monthStart 11 = 337 := rfl
    have hDays : daysInMonth (fromMarch year 11 n).year (fromMarch year 11 n).month
        = if isLeapYear (year + 1) then 29 else 28 := rfl
    rw [hDays]
    by_cases hLast : day = 365
    · rw [hLeap hLast, if_pos rfl]
      omega
    · split <;> omega
  · have hDays := daysInMonth_fromMarch ⟨hMonth.1, by omega⟩ year n
    omega

theorem exists_civil (d : Date) : Exists d.civil := by
  obtain ⟨century, span, year, day, h⟩ := d.exists_counted_days
  rw [civil_eq h]
  generalize (d.days + cycleStart) / cycleDays = cycle
  obtain ⟨hFirst, hLast⟩ := month_fromMarch (monthFromMarch_mem h.day_mem)
    (100 * century + 4 * span + year + cycle * 400) (dayOfMonth day)
  have hDay := dayOfMonth_eq day
  have hStart := (monthStart_le day).1
  refine ⟨hFirst, hLast, ?_, ?_⟩
  · rw [day_fromMarch]
    omega
  · rw [day_fromMarch]
    refine dayOfMonth_le h.day_mem (fun hLeap => ?_) _
    subst hLeap
    exact isLeapYear_of_counted h cycle

/-- A supported date is found from its year, month and day. -/
theorem ofCivil?_civil {d : Date} (h : d.isSupported = true) : ofCivil? d.civil = some d := by
  rw [ofCivil?, ofCivil_civil]
  exact (if_pos d.exists_civil).trans (if_pos h)

theorem isSupported_of_ofCivil? {c : Civil} {d : Date} (h : ofCivil? c = some d) :
    d.isSupported = true := by
  unfold ofCivil? at h
  split at h
  · dsimp only at h
    split at h
    · rename_i hSupported
      cases h
      exact hSupported
    · cases h
  · cases h

end Date

end TextTemplate.Calendar
