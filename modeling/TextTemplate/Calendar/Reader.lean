import TextTemplate.Calendar.Moment
import TextTemplate.Text.Blank

/-!
# Reading moments

A moment is read from the first of these forms that fits: RFC 3339, `2024-01-15T10:30:00`,
`2024-01-15 10:30:00`, `2024-01-15`, `01/15/2024`, `15.01.2024`. In all but the first, numbers may
be short and white space may stand in front of them.
-/

namespace TextTemplate.Calendar

namespace Moment

/-- A number of at least one and at most `most` digits, and the rest. -/
def number? (most : Nat) (text : List Char) : Option (Nat × List Char) :=
  match (text.take most).takeWhile Char.isDigit with
  | [] => none
  | digits => some (Nat.ofDigitChars 10 digits 0, text.drop digits.length)

/-- A number of exactly `count` digits, and the rest. -/
def fixed? (count : Nat) (text : List Char) : Option (Nat × List Char) :=
  let digits := (text.take count).takeWhile Char.isDigit
  if digits.length = count then some (Nat.ofDigitChars 10 digits 0, text.drop count) else none

/-- A given character. -/
def char? (c : Char) : List Char → Option (List Char)
  | d :: rest => if d = c then some rest else none
  | [] => none

/-- The parts of a form. -/
inductive Field
  | year
  | month
  | day
  | hour
  | minute
  | second
  | mark (c : Char)
  | space

/-- The numbers read from a form. -/
structure Reading where
  civil : Civil
  hour : Nat
  minute : Nat
  second : Nat

/-- A year: up to four digits, or a sign and any number of digits. -/
def year? : List Char → Option (Int × List Char)
  | '-' :: rest => (number? rest.length rest).map fun (n, rest) => (-(n : Int), rest)
  | '+' :: rest => (number? rest.length rest).map fun (n, rest) => ((n : Int), rest)
  | text => (number? 4 text).map fun (n, rest) => ((n : Int), rest)

/-- Reads one part of a form. -/
def field? (r : Reading) (text : List Char) : Field → Option (Reading × List Char)
  | .mark c => (char? c text).map fun rest => (r, rest)
  | .space => some (r, Text.trimStart text)
  | .year =>
    (year? (Text.trimStart text)).map fun (n, rest) =>
      ({ r with civil := { r.civil with year := n } }, rest)
  | .month =>
    (number? 2 (Text.trimStart text)).map fun (n, rest) =>
      ({ r with civil := { r.civil with month := n } }, rest)
  | .day =>
    (number? 2 (Text.trimStart text)).map fun (n, rest) =>
      ({ r with civil := { r.civil with day := n } }, rest)
  | .hour => (number? 2 (Text.trimStart text)).map fun (n, rest) => ({ r with hour := n }, rest)
  | .minute => (number? 2 (Text.trimStart text)).map fun (n, rest) => ({ r with minute := n }, rest)
  | .second => (number? 2 (Text.trimStart text)).map fun (n, rest) => ({ r with second := n }, rest)

/-- Reads the parts of a form in order. -/
def fields? : List Field → Reading → List Char → Option (Reading × List Char)
  | [], r, text => some (r, text)
  | field :: rest, r, text => (field? r text field).bind fun (r, text) => fields? rest r text

/-- The time of day of a reading; second 60 is a leap second. -/
def Reading.time? (r : Reading) (nano : Nat) : Option DayTime :=
  if r.hour < 24 ∧ r.minute < 60 ∧ r.second ≤ 60 then
    let second := r.hour * 3600 + r.minute * 60
    if r.second = 60 then some ⟨second + 59, 1000000000 + nano⟩
    else some ⟨second + r.second, nano⟩
  else none

/-- Reads a whole text in a form. -/
def read? (form : List Field) (text : List Char) : Option Reading :=
  match fields? form ⟨⟨0, 0, 0⟩, 0, 0, 0⟩ text with
  | some (r, []) => some r
  | _ => none

/-- The offset at the end of an RFC 3339 text, in seconds. -/
def rfcOffset? : List Char → Option Int
  | ['Z'] => some 0
  | ['z'] => some 0
  | sign :: rest => do
    let negative ← if sign = '+' then some false
      else if sign = '-' ∨ sign = '−' then some true else none
    let (hours, rest) ← fixed? 2 rest
    let rest ← char? ':' rest
    let (minutes, rest) ← fixed? 2 rest
    if rest = [] ∧ hours < 24 ∧ minutes < 60 then
      let seconds : Int := hours * 3600 + minutes * 60
      some (if negative then -seconds else seconds)
    else none
  | [] => none

/-- A fraction of a second in nanoseconds, if there is one; digits after the ninth are passed. -/
def rfcFraction? : List Char → Option (Nat × List Char)
  | '.' :: rest =>
    match rest.takeWhile Char.isDigit with
    | [] => none
    | digits =>
      let kept := digits.take 9
      some (Nat.ofDigitChars 10 kept 0 * Nat.pow 10 (9 - kept.length), rest.dropWhile Char.isDigit)
  | text => some (0, text)

/-- Reads a text in the form of RFC 3339. -/
def rfc? (text : List Char) : Option Moment := do
  let (year, text) ← fixed? 4 text
  let text ← char? '-' text
  let (month, text) ← fixed? 2 text
  let text ← char? '-' text
  let (day, text) ← fixed? 2 text
  let text ← (char? 'T' text).or ((char? 't' text).or (char? ' ' text))
  let (hour, text) ← fixed? 2 text
  let text ← char? ':' text
  let (minute, text) ← fixed? 2 text
  let text ← char? ':' text
  let (second, text) ← fixed? 2 text
  let (nano, text) ← rfcFraction? text
  let offset ← rfcOffset? text
  let date ← Date.ofCivil? ⟨year, month, day⟩
  let time ← Reading.time? ⟨⟨year, month, day⟩, hour, minute, second⟩ nano
  some (.zoned (DateTime.shift ⟨date, time⟩ (-offset)) offset)

/-- The forms of a date. -/
def dateForms : List (List Field) :=
  [[.year, .mark '-', .month, .mark '-', .day],
   [.month, .mark '/', .day, .mark '/', .year],
   [.day, .mark '.', .month, .mark '.', .year]]

/-- The forms of a date and time. -/
def dateTimeForms : List (List Field) :=
  let date : List Field := [.year, .mark '-', .month, .mark '-', .day]
  let time : List Field := [.hour, .mark ':', .minute, .mark ':', .second]
  [date ++ [.mark 'T'] ++ time, date ++ [.space] ++ time]

def ofDateTime? (form : List Field) (text : List Char) : Option Moment := do
  let r ← read? form text
  let date ← Date.ofCivil? r.civil
  let time ← r.time? 0
  some (.here ⟨date, time⟩)

def ofDate? (form : List Field) (text : List Char) : Option Moment := do
  let r ← read? form text
  let date ← Date.ofCivil? r.civil
  some (.date date)

/-- Reads a text, without white space around it, in the first form that fits. -/
def parse? (text : List Char) : Option Moment :=
  (rfc? text).or
    ((dateTimeForms.findSome? fun form => ofDateTime? form text).or
      (dateForms.findSome? fun form => ofDate? form text))

end Moment

end TextTemplate.Calendar
