import TextTemplate.Number.Decimal

/-!
# Numerals

The decimal texts of numbers.

* `Numeral.value` is the number nearest to a numeral, `Numeral.ofText?` reads one with an optional
  sign, fraction and exponent.
* `Number.plain` writes the shortest digits that read back, never with an exponent;
  `Number.text` is the same with one spelling of zero.
* `Number.jsonText` writes them with a decimal point or an exponent.
-/

namespace TextTemplate

/-- The parts of a decimal numeral. -/
structure Numeral where
  negative : Bool
  whole : List Char
  fraction : List Char
  exponent : Int

namespace Numeral

/-- Beyond these bounds a numeral of that many digits is infinite or zero all the same. -/
def clampExponent (length : Nat) (exponent : Int) : Int :=
  max (-((length : Int) + 400)) (min exponent 400)

/-- The number nearest to a numeral. -/
def value (n : Numeral) : Number :=
  let digits := n.whole ++ n.fraction
  let exponent := clampExponent digits.length (n.exponent - n.fraction.length)
  Number.ofDecimal n.negative (Nat.ofDigitChars 10 digits 0) exponent

/-- An optional sign. -/
def sign : List Char → Bool × List Char
  | '-' :: rest => (true, rest)
  | '+' :: rest => (false, rest)
  | rest => (false, rest)

/-- The exponent part: none, or `e` with an optional sign and digits up to the end. -/
def exponent? : List Char → Option Int
  | [] => some 0
  | c :: rest =>
    if c = 'e' ∨ c = 'E' then
      let (negative, digits) := sign rest
      if digits ≠ [] ∧ digits.all Char.isDigit then
        let magnitude : Int := Nat.ofDigitChars 10 digits 0
        some (if negative then -magnitude else magnitude)
      else none
    else none

/-- A fraction after its point, and what follows. -/
def splitFraction : List Char → List Char × List Char
  | '.' :: rest => (rest.takeWhile Char.isDigit, rest.dropWhile Char.isDigit)
  | rest => ([], rest)

/-- Reads a whole text as a numeral with at least one digit before or after its point. -/
def ofText? (text : List Char) : Option Numeral :=
  let (negative, text) := sign text
  let whole := text.takeWhile Char.isDigit
  let (fraction, rest) := splitFraction (text.dropWhile Char.isDigit)
  if whole = [] ∧ fraction = [] then none
  else (exponent? rest).map fun exponent => ⟨negative, whole, fraction, exponent⟩

end Numeral

namespace Decimal

/-- The digits before and after the point of `digits * 10 ^ exponent`. -/
def places (d : Decimal) : List Char × List Char :=
  let digits := Nat.toDigits 10 d.digits
  match d.exponent with
  | .ofNat e => (digits ++ List.replicate e '0', [])
  | .negSucc e =>
    let padded := List.replicate (e + 2 - digits.length) '0' ++ digits
    padded.splitAt (padded.length - (e + 1))

/-- The exponent of the leading digit. -/
def leading (d : Decimal) : Int := d.exponent + (Nat.toDigits 10 d.digits).length - 1

end Decimal

namespace Number

/-- A minus sign for negative numbers. -/
def signText (negative : Bool) : List Char := if negative then ['-'] else []

/-- The shortest digits that read back, without an exponent. -/
def plain : Number → List Char
  | .nan _ => "NaN".toList
  | .infinite negative => signText negative ++ "inf".toList
  | .finite negative m =>
    let (whole, fraction) := (Decimal.shortest .up m).places
    signText negative ++ whole ++ (if fraction = [] then [] else '.' :: fraction)

/-- The rendering of a number in text: as `plain`, but zero has no sign. -/
def text (x : Number) : List Char := if x.isZero then ['0'] else plain x

/-- Exponents of the leading digit that are written out positionally in JSON. -/
def jsonPositional (leading : Int) : Bool := -5 ≤ leading && leading ≤ 15

/-- The shortest digits as a JSON number with a point or an exponent; none if not finite. -/
def jsonText? : Number → Option (List Char)
  | .finite negative m =>
    let d := Decimal.shortest .even m
    let body :=
      if jsonPositional d.leading then
        let (whole, fraction) := d.places
        whole ++ '.' :: (if fraction = [] then ['0'] else fraction)
      else
        let mantissa := match Nat.toDigits 10 d.digits with
          | first :: second :: rest => first :: '.' :: second :: rest
          | digits => digits
        let exponent := Nat.toDigits 10 d.leading.natAbs
        mantissa ++ 'e' :: (if d.leading < 0 then '-' else '+') :: exponent
    some (signText negative ++ body)
  | _ => none

end Number

end TextTemplate
