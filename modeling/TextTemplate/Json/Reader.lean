import TextTemplate.Json.Basic
import TextTemplate.Number.Arithmetic
import TextTemplate.Number.Numeral
import TextTemplate.Table
import TextTemplate.Text.Hex

/-!
# Reading JSON

The grammar of JSON texts over characters. Every reader gives what it read and the rest of the
text. Nesting is limited; of several members of one name the last stays.

A number with a point or an exponent is a significand of 64 bits and a power of ten. The significand
and the step that joins it with the power are rounded apart, so a number of more than fifteen digits
may be read as a neighbour of the nearest one.
-/

namespace TextTemplate.Json

/-- The white space of the format. -/
def isSpace (c : Char) : Bool := c == ' ' || c == '\n' || c == '\r' || c == '\t'

def skipSpace (input : List Char) : List Char := input.dropWhile isSpace

/-- Four hexadecimal digits. -/
def hexUnit? (input : List Char) : Option (Nat × List Char) := Text.hexNumber? 4 0 input

/-- The character of an escape by code units, after its first `\u`: one unit or a pair. -/
def unitEscape? (input : List Char) : Option (Char × List Char) := do
  let (unit, rest) ← hexUnit? input
  if 0xd800 ≤ unit ∧ unit < 0xdc00 then
    match rest with
    | '\\' :: 'u' :: rest =>
      let (low, rest) ← hexUnit? rest
      if 0xdc00 ≤ low ∧ low < 0xe000 then
        some (Char.ofNat (0x10000 + (unit - 0xd800) * 0x400 + (low - 0xdc00)), rest)
      else none
    | _ => none
  else if 0xdc00 ≤ unit ∧ unit < 0xe000 then none
  else some (Char.ofNat unit, rest)

/-- The character of an escape, after its backslash. -/
def escape? : List Char → Option (Char × List Char)
  | '"' :: rest => some ('"', rest)
  | '\\' :: rest => some ('\\', rest)
  | '/' :: rest => some ('/', rest)
  | 'b' :: rest => some ('\x08', rest)
  | 'f' :: rest => some ('\x0c', rest)
  | 'n' :: rest => some ('\n', rest)
  | 'r' :: rest => some ('\r', rest)
  | 't' :: rest => some ('\t', rest)
  | 'u' :: rest => unitEscape? rest
  | _ => none

/-- A string after its opening quote, with the characters read so far in reverse. -/
def stringFrom? : Nat → List Char → List Char → Option (String × List Char)
  | 0, _, _ => none
  | fuel + 1, done, input =>
    match input with
    | [] => none
    | '"' :: rest => some (String.ofList done.reverse, rest)
    | '\\' :: rest => do
      let (c, rest) ← escape? rest
      stringFrom? fuel (c :: done) rest
    | c :: rest => if c.toNat < 0x20 then none else stringFrom? fuel (c :: done) rest

def string? (input : List Char) : Option (String × List Char) :=
  stringFrom? (input.length + 1) [] input

/-- The digits before the point: a zero alone, or digits that do not start with one. -/
def wholeDigits? : List Char → Option (List Char × List Char)
  | '0' :: rest => some (['0'], rest)
  | input =>
    match input.takeWhile Char.isDigit with
    | [] => none
    | digits => some (digits, input.dropWhile Char.isDigit)

/-- The digits after a point, none without a point. -/
def fractionDigits? : List Char → Option (List Char × List Char)
  | '.' :: rest =>
    match rest.takeWhile Char.isDigit with
    | [] => none
    | digits => some (digits, rest.dropWhile Char.isDigit)
  | input => some ([], input)

/-- An exponent, if there is one. -/
def exponentPart? : List Char → Option (Option Int × List Char)
  | c :: rest =>
    if c = 'e' ∨ c = 'E' then
      let (negative, rest) := Numeral.sign rest
      match rest.takeWhile Char.isDigit with
      | [] => none
      | digits =>
        let magnitude : Int := Nat.ofDigitChars 10 digits 0
        some (some (if negative then -magnitude else magnitude), rest.dropWhile Char.isDigit)
    else some (none, c :: rest)
  | [] => some (none, [])

/-- Is the integer one that is kept exactly, that is, a 64-bit one? -/
def keepsInteger (i : Int) : Bool := -(Nat.pow 2 63 : Int) ≤ i && i < (Nat.pow 2 64 : Int)

/-! ## Significands -/

/-- A number `digits * 10 ^ exponent`. -/
structure Significand where
  digits : Nat
  exponent : Int

namespace Significand

/-- Significands are below this bound. -/
def limit : Nat := Nat.pow 2 64

/-- Adds digits before the point. From the first one that does not fit, they only count. -/
def addWhole : Significand → List Char → Significand
  | s, [] => s
  | s, c :: rest =>
    let longer := 10 * s.digits + (c.toNat - '0'.toNat)
    if longer < limit then addWhole { s with digits := longer } rest
    else { s with exponent := s.exponent + (rest.length + 1) }

/-- Adds digits after the point, up to the first one that does not fit. -/
def addFraction : Significand → List Char → Significand
  | s, [] => s
  | s, c :: rest =>
    let longer := 10 * s.digits + (c.toNat - '0'.toNat)
    if longer < limit then addFraction ⟨longer, s.exponent - 1⟩ rest else s

/-- The greatest power of ten that is taken in one step. -/
def stepLimit : Nat := 308

/-- A power of ten. -/
def power (exponent : Nat) : Number := Number.ofDecimal false 1 exponent

/-- The number of a significand, none if it is beyond the range of numbers. -/
def value? (s : Significand) : Option Number :=
  let x := Number.ofNat s.digits
  let exponent := s.exponent.natAbs
  if x.isZero then some x
  else if 0 ≤ s.exponent then
    if stepLimit < exponent then none
    else
      let product := x.mul (power exponent)
      if product.isFinite then some product else none
  else if exponent ≤ stepLimit then some (x.div (power exponent))
  else if exponent ≤ 2 * stepLimit then
    some ((x.div (power stepLimit)).div (power (exponent - stepLimit)))
  else some Number.zero

end Significand

/-- A number; one beyond the range of numbers is refused. -/
def number? (input : List Char) : Option (Json × List Char) := do
  let (negative, input) := match input with
    | '-' :: rest => (true, rest)
    | input => (false, input)
  let (whole, input) ← wholeDigits? input
  let (fraction, input) ← fractionDigits? input
  let (exponent, input) ← exponentPart? input
  let magnitude : Int := Nat.ofDigitChars 10 whole 0
  let exact := if negative then -magnitude else magnitude
  if fraction = [] ∧ exponent = none ∧ keepsInteger exact ∧ ¬(negative ∧ magnitude = 0) then
    some (.integer exact, input)
  else
    let s := (Significand.addWhole ⟨0, 0⟩ whole).addFraction fraction
    let x ← { s with exponent := s.exponent + exponent.getD 0 : Significand }.value?
    some (.real (if negative then x.neg else x), input)

/-- A fixed word and its document. -/
def word? (word : String) (value : Json) (input : List Char) : Option (Json × List Char) :=
  if word.toList.isPrefixOf input then some (value, input.drop word.length) else none

mutual

/-- A document; `depth` levels of nesting are left. -/
def value? : Nat → Nat → List Char → Option (Json × List Char)
  | 0, _, _ => none
  | fuel + 1, depth, input =>
    match skipSpace input with
    | '"' :: rest => (string? rest).map fun (s, rest) => (.text s, rest)
    | '[' :: rest =>
      if depth ≤ 1 then none
      else
        match skipSpace rest with
        | ']' :: rest => some (.list [], rest)
        | rest => items? fuel (depth - 1) [] rest
    | '{' :: rest =>
      if depth ≤ 1 then none
      else
        match skipSpace rest with
        | '}' :: rest => some (.object [], rest)
        | rest => members? fuel (depth - 1) [] rest
    | 'n' :: rest => word? "null" .null ('n' :: rest)
    | 't' :: rest => word? "true" (.boolean true) ('t' :: rest)
    | 'f' :: rest => word? "false" (.boolean false) ('f' :: rest)
    | rest => number? rest

/-- The items of a list up to its bracket, those read so far in reverse. -/
def items? : Nat → Nat → List Json → List Char → Option (Json × List Char)
  | 0, _, _, _ => none
  | fuel + 1, depth, done, input => do
    let (item, rest) ← value? fuel depth input
    match skipSpace rest with
    | ']' :: rest => some (.list (item :: done).reverse, rest)
    | ',' :: rest => items? fuel depth (item :: done) rest
    | _ => none

/-- The members of an object up to its brace. -/
def members? : Nat → Nat → Table Json → List Char → Option (Json × List Char)
  | 0, _, _, _ => none
  | fuel + 1, depth, done, input =>
    match skipSpace input with
    | '"' :: rest => do
      let (name, rest) ← string? rest
      match skipSpace rest with
      | ':' :: rest =>
        let (member, rest) ← value? fuel depth rest
        let done := done.put name member
        match skipSpace rest with
        | '}' :: rest => some (.object done, rest)
        | ',' :: rest => members? fuel depth done rest
        | _ => none
      | _ => none
    | _ => none

end

/-- The number of levels at which nesting is refused. -/
def depthLimit : Nat := 128

/-- Reads a whole text as one document. -/
def parse? (input : List Char) : Option Json :=
  match value? (2 * input.length + 2) depthLimit input with
  | some (value, rest) => if skipSpace rest = [] then some value else none
  | none => none

end TextTemplate.Json
