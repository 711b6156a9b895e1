import TextTemplate.Calendar.Moment

/-!
# Writing moments

Each shape of a moment has one canonical text, in which it can be read again.
-/

namespace TextTemplate.Calendar

/-- How a number is filled up to its width. -/
inductive Pad
  | none
  | zero
  | space
deriving DecidableEq

/-- An integer with at least `width` characters, its sign included. -/
def padded (pad : Pad) (width : Nat) (plus : Bool) (n : Int) : List Char :=
  let sign := if n < 0 then ['-'] else if plus then ['+'] else []
  let digits := Nat.toDigits 10 n.natAbs
  let missing := width - (sign.length + digits.length)
  match pad with
  | .none => sign ++ digits
  | .zero => sign ++ List.replicate missing '0' ++ digits
  | .space => List.replicate missing ' ' ++ sign ++ digits

/-- A natural number with at least `width` digits. -/
def zeros (width n : Nat) : List Char := padded .zero width false n

/-- A year of four digits; outside of 0 to 9999 it has a sign. -/
def yearText (pad : Pad) (year : Int) : List Char :=
  if 0 ≤ year ∧ year < 10000 then padded pad 4 false year else padded pad 5 true year

/-- Sign and hours, minutes and seconds of an offset, as many as wanted. -/
def offsetText (colon seconds : Bool) (offset : Int) : List Char :=
  let sign := if offset < 0 then '-' else '+'
  let total := offset.natAbs
  let colon := if colon then [':'] else []
  if seconds then
    sign :: zeros 2 (total / 3600) ++ colon ++ zeros 2 (total / 60 % 60) ++ colon
      ++ zeros 2 (total % 60)
  else
    let minutes := (total + 30) / 60
    sign :: zeros 2 (minutes / 60) ++ colon ++ zeros 2 (minutes % 60)

/-- The fraction of a second after a point, in 0, 3, 6 or 9 digits. -/
def fractionText (nano : Nat) : List Char :=
  if nano = 0 then []
  else if nano % 1000000 = 0 then '.' :: zeros 3 (nano / 1000000)
  else if nano % 1000 = 0 then '.' :: zeros 6 (nano / 1000)
  else '.' :: zeros 9 nano

def Date.text (d : Date) : List Char :=
  yearText .zero d.year ++ '-' :: zeros 2 d.month ++ '-' :: zeros 2 d.day

/-- Hours, minutes and seconds. -/
def DayTime.text (t : DayTime) : List Char :=
  zeros 2 t.hour ++ ':' :: zeros 2 t.minute ++ ':' :: zeros 2 t.secondOfMinute

def DateTime.text (d : DateTime) : List Char := d.date.text ++ 'T' :: d.time.text

/-- A date and time in the form of RFC 3339, without its offset. -/
def DateTime.rfcText (d : DateTime) : List Char := d.text ++ fractionText d.time.fraction

/-- The offset of an RFC 3339 text; universal time is `Z` if that is wanted. -/
def rfcOffsetText (zulu : Bool) (offset : Int) : List Char :=
  if zulu ∧ offset = 0 then ['Z'] else offsetText true false offset

/-- The canonical text of a moment. -/
def Moment.text : Moment → List Char
  | .zoned utc offset => (utc.shift offset).rfcText ++ rfcOffsetText true offset
  | .here dateTime => dateTime.text
  | .date d => d.text

end TextTemplate.Calendar
