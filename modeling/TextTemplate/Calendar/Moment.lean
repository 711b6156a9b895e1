import TextTemplate.Calendar.Date

/-!
# Moments

A moment is a date alone, a local date and time, or a date and time with an offset from universal
time. Leap seconds are kept as a second 59 with more than a second's worth of nanoseconds.

* `Moment.addDays?` shifts a moment and keeps its shape.
* `Moment.daysUntil` counts the whole days from one moment to another.
-/

namespace TextTemplate.Calendar

def secondsPerDay : Int := 86400

def nanosPerSecond : Int := 1000000000

/-- A time of day: the second of the day and nanoseconds, a full second more in a leap second. -/
structure DayTime where
  second : Nat
  nano : Nat
deriving DecidableEq, Repr

namespace DayTime

def midnight : DayTime := ⟨0, 0⟩

def isLeap (t : DayTime) : Bool := 1000000000 ≤ t.nano

def hour (t : DayTime) : Nat := t.second / 3600

def minute (t : DayTime) : Nat := t.second / 60 % 60

/-- The second of the minute; 60 in a leap second. -/
def secondOfMinute (t : DayTime) : Nat := t.second % 60 + t.nano / 1000000000

/-- The fraction of the second, in nanoseconds. -/
def fraction (t : DayTime) : Nat := t.nano % 1000000000

def isAfternoon (t : DayTime) : Bool := 12 ≤ t.hour

/-- The hour of a clock of twelve hours. -/
def hour12 (t : DayTime) : Nat := if t.hour % 12 = 0 then 12 else t.hour % 12

end DayTime

/-- A date and a time of day. -/
structure DateTime where
  date : Date
  time : DayTime
deriving DecidableEq, Repr

namespace DateTime

/-- The date and time so many seconds later by the clock. -/
def shift (d : DateTime) (seconds : Int) : DateTime :=
  let second := d.time.second + seconds
  ⟨⟨d.date.days + second / secondsPerDay⟩, (second % secondsPerDay).toNat, d.time.nano⟩

/-- The same time so many days later, if the date is supported. A leap second that is left counts
as the second before it when going forward and as the second after it when going back. -/
def addDays? (d : DateTime) (n : Int) : Option DateTime :=
  if !d.time.isLeap || n == 0 then
    (d.date.addDays? n).map fun date => { d with date }
  else
    let shifted := DateTime.shift ⟨d.date, d.time.second, d.time.nano - 1000000000⟩
      (if n < 0 then 1 else 0)
    (shifted.date.addDays? n).map fun date => { shifted with date }

/-- The time from one date and time to another, in nanoseconds. A leap second counts when it lies
between the two times of day. -/
def nanosUntil (a b : DateTime) : Int :=
  let leap : Int :=
    if a.time.second < b.time.second then (if a.time.isLeap then 1 else 0)
    else if b.time.second < a.time.second then (if b.time.isLeap then -1 else 0)
    else 0
  let seconds := (b.date.days - a.date.days) * secondsPerDay
    + ((b.time.second : Int) - a.time.second) + leap
  seconds * nanosPerSecond + ((b.time.nano : Int) - a.time.nano)

end DateTime

inductive Moment
  /-- Date and time in universal time, and the offset of the zone in seconds. -/
  | zoned (utc : DateTime) (offset : Int)
  | here (dateTime : DateTime)
  | date (date : Date)
deriving DecidableEq, Repr

namespace Moment

/-- The date and time in the moment's own zone. -/
def civilTime : Moment → DateTime
  | .zoned utc offset => utc.shift offset
  | .here dateTime => dateTime
  | .date d => ⟨d, DayTime.midnight⟩

/-- The place of a moment on a common line of time. -/
def instant : Moment → DateTime
  | .zoned utc _ => utc
  | .here dateTime => dateTime
  | .date d => ⟨d, DayTime.midnight⟩

/-- The offset of the zone, for a moment that has one. -/
def offset? : Moment → Option Int
  | .zoned _ offset => some offset
  | _ => none

/-- The moment so many days later, in the same shape. -/
def addDays? (n : Int) : Moment → Option Moment
  | .zoned utc offset => (utc.addDays? n).map fun utc => .zoned utc offset
  | .here dateTime => (dateTime.addDays? n).map .here
  | .date d => (d.addDays? n).map .date

/-- The whole days from one moment to another, counted toward zero. -/
def daysUntil (a b : Moment) : Int :=
  Int.tdiv (a.instant.nanosUntil b.instant) (secondsPerDay * nanosPerSecond)

end Moment

end TextTemplate.Calendar
