import TextTemplate.Calendar.Writer
import TextTemplate.Number.Numeral
import TextTemplate.Text.Hex
import TextTemplate.Toml.Basic

/-!
# Numbers, dates and truth values in TOML

Each is a run of characters without white space; a date and a time of day may also be parted by one
space.
-/

namespace TextTemplate.Toml

/-! ## Numbers -/

/-- Digits without the underscores between them. -/
def digits? (isDigit : Char → Bool) (input : List Char) : Option (List Char) :=
  let rec go (afterDigit : Bool) : List Char → Option (List Char)
    | [] => if afterDigit then some [] else none
    | c :: rest =>
      if isDigit c then (go true rest).map (c :: ·)
      else if c = '_' ∧ afterDigit then go false rest
      else none
  go false input

/-- Decimal digits that do not start with a zero, except for zero itself. -/
def wholeDigits? (input : List Char) : Option (List Char) :=
  match digits? Char.isDigit input with
  | some ('0' :: _ :: _) => none
  | digits => digits

/-- An integer of a base, from its digits. -/
def ofBase? (base : Nat) (input : List Char) : Option Int := do
  let digits ← digits? (fun c => (Text.hexDigit? c).any (· < base)) input
  some (digits.foldl (fun n c => base * n + (Text.hexDigit? c).getD 0) 0 : Nat)

/-- Integers have up to 128 bits. -/
def isInteger (i : Int) : Bool := -(Nat.pow 2 127 : Int) ≤ i && i < (Nat.pow 2 128 : Int)

def integer? (input : List Char) : Option Int :=
  let read := match input with
    | '0' :: 'x' :: rest => ofBase? 16 rest
    | '0' :: 'o' :: rest => ofBase? 8 rest
    | '0' :: 'b' :: rest => ofBase? 2 rest
    | input =>
      let (negative, rest) := Numeral.sign input
      (wholeDigits? rest).map fun digits =>
        let magnitude : Int := Nat.ofDigitChars 10 digits 0
        if negative then -magnitude else magnitude
  read.filter isInteger

/-- An exponent with an optional sign, none if there is nothing. -/
def exponent? : List Char → Option (Option Int)
  | [] => some none
  | c :: rest =>
    if c = 'e' ∨ c = 'E' then
      let (negative, rest) := Numeral.sign rest
      (digits? Char.isDigit rest).map fun digits =>
        let magnitude : Int := Nat.ofDigitChars 10 digits 0
        some (if negative then -magnitude else magnitude)
    else none

/-- A number with a fraction or an exponent, or a word for one that is not finite. -/
def real? (input : List Char) : Option Number :=
  let (negative, rest) := Numeral.sign input
  if rest = "inf".toList then some (.infinite negative)
  else if rest = "nan".toList then some (.nan negative)
  else do
    let isMark := fun c => c == '.' || c == 'e' || c == 'E'
    let whole ← wholeDigits? (rest.takeWhile fun c => !isMark c)
    let (fraction, rest) ← match rest.dropWhile fun c => !isMark c with
      | '.' :: rest =>
        (digits? Char.isDigit (rest.takeWhile fun c => !isMark c)).map fun fraction =>
          (fraction, rest.dropWhile fun c => !isMark c)
      | rest => some ([], rest)
    let exponent ← exponent? rest
    if fraction = [] ∧ exponent = none then none
    else
      let x := Numeral.value ⟨negative, whole, fraction, exponent.getD 0⟩
      if x.isFinite then some x else none

/-! ## Dates and times -/

/-- A number of exactly two digits below a bound. -/
def twoDigits? (bound : Nat) : List Char → Option (Nat × List Char)
  | a :: b :: rest =>
    if a.isDigit && b.isDigit then
      let n := Nat.ofDigitChars 10 [a, b] 0
      if n < bound then some (n, rest) else none
    else none
  | _ => none

/-- A day `2024-01-15`. -/
def day? (input : List Char) : Option (List Char × List Char) :=
  let year := input.take 4
  match year.length, year.all Char.isDigit, input.drop 4 with
  | 4, true, '-' :: rest => do
    let (month, rest) ← twoDigits? 13 rest
    match rest with
    | '-' :: rest =>
      let (day, rest) ← twoDigits? 32 rest
      let most := Calendar.daysInMonth (Nat.ofDigitChars 10 year 0) month
      if 1 ≤ month ∧ 1 ≤ day ∧ day ≤ most then some (input.take 10, rest) else none
    | _ => none
  | _, _, _ => none

/-- The digits after the point of a time: at most nine, without the zeros at their end. -/
def fraction? : List Char → Option (List Char × List Char)
  | '.' :: rest =>
    match rest.takeWhile Char.isDigit with
    | [] => none
    | digits =>
      let kept := ((digits.take 9).reverse.dropWhile (· == '0')).reverse
      some (if kept = [] then [] else '.' :: kept, rest.drop digits.length)
  | rest => some ([], rest)

/-- A time of day `10:30:00.5`, whose seconds may be left out. -/
def time? (input : List Char) : Option (List Char × List Char) := do
  let (hour, rest) ← twoDigits? 24 input
  match rest with
  | ':' :: rest =>
    let (minute, rest) ← twoDigits? 60 rest
    let start := Calendar.zeros 2 hour ++ ':' :: Calendar.zeros 2 minute ++ [':']
    match rest with
    | ':' :: rest =>
      let (second, rest) ← twoDigits? 61 rest
      let (fraction, rest) ← fraction? rest
      some (start ++ Calendar.zeros 2 second ++ fraction, rest)
    | rest => some (start ++ ['0', '0'], rest)
  | _ => none

/-- The offset from universal time at the end of a text. -/
def offset? : List Char → Option (List Char)
  | [] => some []
  | c :: rest =>
    if c = 'Z' ∨ c = 'z' then if rest = [] then some ['Z'] else none
    else if c = '+' ∨ c = '-' then do
      let (hour, rest) ← twoDigits? 24 rest
      match rest with
      | ':' :: rest =>
        let (minute, rest) ← twoDigits? 60 rest
        let sign := if hour = 0 ∧ minute = 0 then '+' else c
        if rest = [] then some (sign :: Calendar.zeros 2 hour ++ ':' :: Calendar.zeros 2 minute)
        else none
      | _ => none
    else none

/-- A date, a time of day, or both with an optional offset, in canonical form. -/
def date? (input : List Char) : Option (List Char) :=
  match day? input with
  | some (day, []) => some day
  | some (day, c :: rest) =>
    if c = 'T' ∨ c = 't' ∨ c = ' ' then do
      let (time, rest) ← time? rest
      let offset ← offset? rest
      some (day ++ 'T' :: time ++ offset)
    else none
  | none =>
    match time? input with
    | some (time, []) => some time
    | _ => none

/-! ## Runs of characters -/

/-- Does the character end a run? -/
def endsRun (c : Char) : Bool := ",]\x7d#=\"'[\x7b \t\r\n".toList.contains c

/-- A run, and the rest of the text. A day takes a following time of day along. -/
def run (input : List Char) : List Char × List Char :=
  let first := input.takeWhile fun c => !endsRun c
  let rest := input.drop first.length
  match (day? first).map Prod.snd, rest with
  | some [], ' ' :: c :: more =>
    if c.isDigit then
      let second := (c :: more).takeWhile fun c => !endsRun c
      (first ++ ' ' :: second, (c :: more).drop second.length)
    else (first, rest)
  | _, _ => (first, rest)

/-- The value of a run. -/
def ofRun? (input : List Char) : Option Toml :=
  if input = "true".toList then some (.boolean true)
  else if input = "false".toList then some (.boolean false)
  else
    ((date? input).map fun s => .date (String.ofList s))
      <|> ((integer? input).map .integer) <|> ((real? input).map .real)

end TextTemplate.Toml
