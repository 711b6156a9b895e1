import TextTemplate.Calendar.Writer

/-!
# Formats of moments

A format is text with directives such as `%Y` or `%-d`.

* `Format.parse?` reads a format; none for an unknown directive.
* `Format.write?` writes a moment in a format; none if the format asks for the offset of a moment
  without one.
-/

namespace TextTemplate.Calendar

/-- The numbers that a format can ask for. -/
inductive FormatNumber
  | year
  | century
  | yearOfCentury
  | weekYear
  | weekYearOfCentury
  | quarter
  | month
  | day
  | ordinal
  | weekFromSunday
  | weekFromMonday
  | weekOfWeekYear
  | daysFromSunday
  | dayFromMonday
  | hour
  | hour12
  | minute
  | second
  | nano
  | timestamp
deriving DecidableEq

/-- The ways to write an offset. -/
inductive OffsetStyle
  /-- Hours and minutes without a colon. -/
  | compact
  | colon
  /-- Hours, minutes and seconds. -/
  | seconds
  /-- Hours alone. -/
  | hours
deriving DecidableEq

inductive FormatItem
  | text (s : List Char)
  | number (field : FormatNumber) (pad : Pad)
  | monthName (short : Bool)
  | weekdayName (short : Bool)
  | meridiem (lower : Bool)
  /-- The fraction of the second in a number of digits. -/
  | fraction (point : Bool) (digits : Nat)
  /-- The fraction of the second with its point, in as many digits as it needs. -/
  | wholeFraction
  | zoneName
  | offset (style : OffsetStyle)
  | rfc
  /-- An offset that can be read only. -/
  | readOnlyOffset
deriving DecidableEq

abbrev Format := List FormatItem

namespace Format

def numberOf (field : FormatNumber) : Format := [.number field .zero]

def spaced (field : FormatNumber) : Format := [.number field .space]

def clock : Format :=
  [.number .hour .zero, .text [':'], .number .minute .zero, .text [':'], .number .second .zero]

def monthDayYear : Format :=
  [.number .month .zero, .text ['/'], .number .day .zero, .text ['/'],
   .number .yearOfCentury .zero]

/-- The items of a directive of one character. -/
def letter? : Char → Option Format
  | 'A' => some [.weekdayName false]
  | 'B' => some [.monthName false]
  | 'C' => some (numberOf .century)
  | 'D' => some monthDayYear
  | 'F' => some [.number .year .zero, .text ['-'], .number .month .zero, .text ['-'],
      .number .day .zero]
  | 'G' => some (numberOf .weekYear)
  | 'H' => some (numberOf .hour)
  | 'I' => some (numberOf .hour12)
  | 'M' => some (numberOf .minute)
  | 'P' => some [.meridiem true]
  | 'R' => some [.number .hour .zero, .text [':'], .number .minute .zero]
  | 'S' => some (numberOf .second)
  | 'T' => some clock
  | 'U' => some (numberOf .weekFromSunday)
  | 'V' => some (numberOf .weekOfWeekYear)
  | 'W' => some (numberOf .weekFromMonday)
  | 'X' => some clock
  | 'Y' => some (numberOf .year)
  | 'Z' => some [.zoneName]
  | 'a' => some [.weekdayName true]
  | 'b' | 'h' => some [.monthName true]
  | 'c' => some ([.weekdayName true, .text [' '], .monthName true, .text [' '],
      .number .day .space, .text [' ']] ++ clock ++ [.text [' '], .number .year .zero])
  | 'd' => some (numberOf .day)
  | 'e' => some (spaced .day)
  | 'f' => some (numberOf .nano)
  | 'g' => some (numberOf .weekYearOfCentury)
  | 'j' => some (numberOf .ordinal)
  | 'k' => some (spaced .hour)
  | 'l' => some (spaced .hour12)
  | 'm' => some (numberOf .month)
  | 'n' => some [.text ['\n']]
  | 'p' => some [.meridiem false]
  | 'q' => some [.number .quarter .none]
  | 'r' => some [.number .hour12 .zero, .text [':'], .number .minute .zero, .text [':'],
      .number .second .zero, .text [' '], .meridiem false]
  | 's' => some [.number .timestamp .none]
  | 't' => some [.text ['\t']]
  | 'u' => some [.number .dayFromMonday .none]
  | 'v' => some [.number .day .space, .text ['-'], .monthName true, .text ['-'],
      .number .year .zero]
  | 'w' => some [.number .daysFromSunday .none]
  | 'x' => some monthDayYear
  | 'y' => some (numberOf .yearOfCentury)
  | 'z' => some [.offset .compact]
  | '+' => some [.rfc]
  | '%' => some [.text ['%']]
  | _ => none

/-- The number of digits that a digit before `f` asks for. -/
def fractionDigits? : Char → Option Nat
  | '3' => some 3
  | '6' => some 6
  | '9' => some 9
  | _ => none

/-- The items of a directive after its percent sign and padding, and the rest. -/
def plain? : List Char → Option (Format × List Char)
  | ':' :: ':' :: ':' :: 'z' :: rest => some ([.offset .hours], rest)
  | ':' :: ':' :: 'z' :: rest => some ([.offset .seconds], rest)
  | ':' :: 'z' :: rest => some ([.offset .colon], rest)
  | '.' :: 'f' :: rest => some ([.wholeFraction], rest)
  | '.' :: c :: 'f' :: rest => (fractionDigits? c).map fun n => ([.fraction true n], rest)
  | c :: rest =>
    match letter? c with
    | some items => some (items, rest)
    | none =>
      match rest with
      | 'f' :: rest => (fractionDigits? c).map fun n => ([.fraction false n], rest)
      | _ => none
  | [] => none

/-- Replaces the padding of a directive; only a single number has one. -/
def withPad? (pad : Pad) : Format × List Char → Option (Format × List Char)
  | ([.number field _], rest) => some ([.number field pad], rest)
  | _ => none

/-- The items of a directive after its percent sign, and the rest. -/
def directive? : List Char → Option (Format × List Char)
  | '-' :: rest => (plain? rest).bind (withPad? .none)
  | '0' :: rest => (plain? rest).bind (withPad? .zero)
  | '_' :: rest => (plain? rest).bind (withPad? .space)
  | '#' :: 'z' :: rest => some ([.readOnlyOffset], rest)
  | rest => plain? rest

/-- Reads a format; `fuel` bounds the number of items. -/
def parseFrom? : Nat → List Char → Option Format
  | _, [] => some []
  | 0, _ => none
  | fuel + 1, '%' :: rest => do
    let (items, rest) ← directive? rest
    let more ← parseFrom? fuel rest
    some (items ++ more)
  | fuel + 1, c :: rest => (parseFrom? fuel rest).map (.text [c] :: ·)

/-- Reads a format. -/
def parse? (text : List Char) : Option Format := parseFrom? text.length text

def monthNames : List String :=
  ["January", "February", "March", "April", "May", "June", "July", "August", "September",
   "October", "November", "December"]

def weekdayNames : List String :=
  ["Sunday", "Monday", "Tuesday", "Wednesday", "Thursday", "Friday", "Saturday"]

/-- The name at a position, whole or its first three letters. -/
def nameAt (names : List String) (i : Nat) (short : Bool) : List Char :=
  let name := (names.getD i "").toList
  if short then name.take 3 else name

/-- The low byte of a number in two places, the first one counting on beyond the digits. -/
def twoPlaces (pad : Pad) (n : Int) : List Char :=
  let byte := (n % 256).toNat
  let ones := Char.ofNat (0x30 + byte % 10)
  let tens := Char.ofNat (0x30 + byte / 10)
  if byte < 10 then
    match pad with
    | .none => [ones]
    | .zero => ['0', ones]
    | .space => [' ', ones]
  else [tens, ones]

/-- The seconds since the start of 1970, universal time. -/
def timestampOf (d : DateTime) (offset : Int) : Int :=
  d.date.days * secondsPerDay + d.time.second - offset

/-- One number of a moment. -/
def numberText (d : DateTime) (offset : Option Int) (pad : Pad) : FormatNumber → List Char
  | .year => yearText pad d.date.year
  | .century => twoPlaces pad (d.date.year / 100)
  | .yearOfCentury => twoPlaces pad (d.date.year % 100)
  | .weekYear => yearText pad d.date.weekYear
  | .weekYearOfCentury => twoPlaces pad (d.date.weekYear % 100)
  | .quarter => padded .none 1 false d.date.quarter
  | .month => twoPlaces pad d.date.month
  | .day => twoPlaces pad d.date.day
  | .ordinal => padded pad 3 false d.date.ordinal
  | .weekFromSunday => twoPlaces pad d.date.weekFromSunday
  | .weekFromMonday => twoPlaces pad d.date.weekFromMonday
  | .weekOfWeekYear => twoPlaces pad d.date.weekOfWeekYear
  | .daysFromSunday => padded .none 1 false d.date.daysFromSunday
  | .dayFromMonday => padded .none 1 false (d.date.daysFromMonday + 1)
  | .hour => twoPlaces pad d.time.hour
  | .hour12 => twoPlaces pad d.time.hour12
  | .minute => twoPlaces pad d.time.minute
  | .second => twoPlaces pad d.time.secondOfMinute
  | .nano => padded pad 9 false d.time.fraction
  | .timestamp => padded pad 9 false (timestampOf d (offset.getD 0))

/-- One item of a format for a civil date and time and the offset of its zone, if it has one. -/
def itemText? (d : DateTime) (offset : Option Int) : FormatItem → Option (List Char)
  | .text s => some s
  | .number field pad => some (numberText d offset pad field)
  | .monthName short => some (nameAt monthNames (d.date.month - 1) short)
  | .weekdayName short => some (nameAt weekdayNames d.date.daysFromSunday short)
  | .meridiem lower =>
    some (if d.time.isAfternoon then (if lower then ['p', 'm'] else ['P', 'M'])
      else (if lower then ['a', 'm'] else ['A', 'M']))
  | .fraction point digits =>
    some ((if point then ['.'] else []) ++ zeros digits (d.time.fraction / Nat.pow 10 (9 - digits)))
  | .wholeFraction => some (fractionText d.time.fraction)
  | .zoneName => offset.map (offsetText true false)
  | .offset style =>
    offset.map fun offset =>
      match style with
      | .compact => offsetText false false offset
      | .colon => offsetText true false offset
      | .seconds => offsetText true true offset
      | .hours => (offsetText false true offset).take 3
  | .rfc => offset.map fun offset => d.rfcText ++ rfcOffsetText false offset
  | .readOnlyOffset => none

/-- Writes a moment in a format. -/
def write? (format : Format) (m : Moment) : Option (List Char) :=
  (format.mapM (itemText? m.civilTime m.offset?)).map List.flatten

end Format

end TextTemplate.Calendar
