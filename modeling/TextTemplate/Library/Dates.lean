import TextTemplate.Calendar.Format
import TextTemplate.Calendar.Reader
import TextTemplate.Library.Arguments

/-!
# Date functions

Dates are texts. A function that gives a date keeps the shape of its argument: a date, a local date
and time, or one with an offset. The current time is a parameter.
-/

namespace TextTemplate.Library

open Calendar

/-- The moment in a value. -/
def toMoment (v : Value) : Except CallFault Moment :=
  match v with
  | .text s =>
    let text := Text.trim s.toList
    match Moment.parse? text with
    | some m => .ok m
    | none => .error (.unknownDate (String.ofList text))
  | v => .error (.notDateText v.typeName)

/-- A function without arguments that gives a text. -/
def constantText (text : List Char) : Function
  | [] => .ok (textValue text)
  | args => .error (.arity 0 (some 0) args.length)

/-- The current time in universal time, to the second. -/
def now (clock : DateTime) : Function :=
  constantText (DateTime.text ⟨clock.date, clock.time.second, 0⟩ ++ ['Z'])

def today (clock : DateTime) : Function := constantText clock.date.text

def formatDate : Function :=
  binary fun a b =>
    match toMoment a with
    | .error f => .error f
    | .ok moment =>
      match Format.parse? b.render with
      | none => .error (.badDateFormat b.rendered)
      | some format =>
        match format.write? moment with
        | some text => .ok (textValue text)
        | none => .error (.formatMismatch b.rendered a.rendered)

def addDays : Function :=
  binary fun a b =>
    match toMoment a with
    | .error f => .error f
    | .ok moment =>
      match toInteger b with
      | .error f => .error f
      | .ok days =>
        match moment.addDays? days with
        | some shifted => .ok (textValue shifted.text)
        | none => .error (.daysOutOfRange days a.rendered)

def daysBetween : Function :=
  binary fun a b =>
    match toMoment a with
    | .error f => .error f
    | .ok first => (toMoment b).map fun second => .number (Number.ofInt (first.daysUntil second))

/-- A function of the date of a moment. -/
def onDate (f : Date → Int) : Function :=
  unary fun a => (toMoment a).map fun m => .number (Number.ofInt (f m.civilTime.date))

def dates (clock : DateTime) : List Builtin :=
  [⟨"now", "now()", "Current UTC time as RFC 3339", now clock⟩,
   ⟨"today", "today()", "Current UTC date as YYYY-MM-DD", today clock⟩,
   ⟨"formatDate", "formatDate(date, format)",
     "Formats a date with strftime syntax, e.g. '%d/%m/%Y'", formatDate⟩,
   ⟨"addDays", "addDays(date, days)", "Date shifted by a (possibly negative) number of days",
     addDays⟩,
   ⟨"daysBetween", "daysBetween(from, to)", "Whole days from the first date to the second",
     daysBetween⟩,
   ⟨"year", "year(date)", "Year of a date", onDate fun d => d.year⟩,
   ⟨"month", "month(date)", "Month of a date (1-12)", onDate fun d => d.month⟩,
   ⟨"day", "day(date)", "Day of the month (1-31)", onDate fun d => d.day⟩]

end TextTemplate.Library
