/-!
# Dates

A date of the proleptic Gregorian calendar is a count of days, day 0 being 1 January 1970. Counting
years from March puts the leap day last, which makes both directions of the conversion to year,
month and day plain arithmetic over cycles of 400 years.
-/

namespace TextTemplate.Calendar

/-- A date as the number of days since 1 January 1970. -/
structure Date where
  days : Int
deriving DecidableEq, Repr

/-- A year, a month from 1 to 12 and a day of the month. -/
structure Civil where
  year : Int
  month : Nat
  day : Nat
deriving DecidableEq, Repr

def isLeapYear (year : Int) : Bool :=
  year % 4 == 0 && (year % 100 != 0 || year % 400 == 0)

def daysInMonth (year : Int) (month : Nat) : Nat :=
  if month = 2 then (if isLeapYear year then 29 else 28)
  else if month = 4 ∨ month = 6 ∨ month = 9 ∨ month = 11 then 30
  else 31

/-- The days of a cycle of 400 years. -/
def cycleDays : Int := 146097

/-- The first day of the calendar's cycles, 1 March of year 0, lies this far before day 0. -/
def cycleStart : Int := 719468

namespace Date

/-- The date of a year, month and day. -/
def ofCivil (c : Civil) : Date :=
  let year := if c.month ≤ 2 then c.year - 1 else c.year
  let month : Int := if c.month ≤ 2 then c.month + 9 else c.month - 3
  let yearOfCycle := year % 400
  let dayOfYear := (153 * month + 2) / 5 + c.day - 1
  let dayOfCycle := yearOfCycle * 365 + yearOfCycle / 4 - yearOfCycle / 100 + dayOfYear
  ⟨year / 400 * cycleDays + dayOfCycle - cycleStart⟩

/-- The year, month and day of a date. -/
def civil (d : Date) : Civil :=
  let shifted := d.days + cycleStart
  let dayOfCycle := shifted % cycleDays
  let yearOfCycle :=
    (dayOfCycle - dayOfCycle / 1460 + dayOfCycle / 36524 - dayOfCycle / 146096) / 365
  let dayOfYear := dayOfCycle - (365 * yearOfCycle + yearOfCycle / 4 - yearOfCycle / 100)
  let month := (5 * dayOfYear + 2) / 153
  let day := dayOfYear - (153 * month + 2) / 5 + 1
  let year := yearOfCycle + shifted / cycleDays * 400
  if month < 10 then ⟨year, (month + 3).toNat, day.toNat⟩
  else ⟨year + 1, (month - 9).toNat, day.toNat⟩

/-- The first supported date, 1 January of year -262143. -/
def first : Date := ⟨-96465292⟩

/-- The last supported date, 31 December of year 262142. -/
def last : Date := ⟨95026236⟩

def isSupported (d : Date) : Bool := first.days ≤ d.days && d.days ≤ last.days

/-- The date of a year, month and day that exist in the supported years. -/
def ofCivil? (c : Civil) : Option Date :=
  if 1 ≤ c.month ∧ c.month ≤ 12 ∧ 1 ≤ c.day ∧ c.day ≤ daysInMonth c.year c.month then
    let d := ofCivil c
    if d.isSupported then some d else none
  else none

/-- A date shifted by a number of days, if it is supported. -/
def addDays? (d : Date) (n : Int) : Option Date :=
  let shifted : Date := ⟨d.days + n⟩
  if shifted.isSupported then some shifted else none

def year (d : Date) : Int := d.civil.year

def month (d : Date) : Nat := d.civil.month

def day (d : Date) : Nat := d.civil.day

def quarter (d : Date) : Nat := (d.month - 1) / 3 + 1

/-- The day of the year, from 1. -/
def ordinal (d : Date) : Nat := (d.days - (ofCivil ⟨d.year, 1, 1⟩).days).toNat + 1

/-- The day of the week, counted from Sunday as 0. -/
def daysFromSunday (d : Date) : Nat := ((d.days + 4) % 7).toNat

/-- The day of the week, counted from Monday as 0. -/
def daysFromMonday (d : Date) : Nat := ((d.days + 3) % 7).toNat

/-- The number of the week in the year; weeks start on a Sunday, days before the first are in
week 0. -/
def weekFromSunday (d : Date) : Nat := (d.ordinal + 6 - d.daysFromSunday) / 7

/-- The number of the week in the year; weeks start on a Monday, days before the first are in
week 0. -/
def weekFromMonday (d : Date) : Nat := (d.ordinal + 6 - d.daysFromMonday) / 7

/-- The Thursday of the week of a date, which decides its week-based year. -/
def thursday (d : Date) : Date := ⟨d.days - d.daysFromMonday + 3⟩

/-- The year of the week of a date. -/
def weekYear (d : Date) : Int := d.thursday.year

/-- The number of the week in the week-based year, from 1. -/
def weekOfWeekYear (d : Date) : Nat := (d.thursday.ordinal - 1) / 7 + 1

end Date

end TextTemplate.Calendar
