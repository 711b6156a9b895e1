import TextTemplate.Evaluation.Registry
import TextTemplate.Text.Blank

/-!
# Arguments of library functions

The coercions that all library functions share. A number is taken from a number or from a text that
reads as a finite one.
-/

namespace TextTemplate.Library

/-- A library function and its documentation. -/
structure Builtin where
  name : String
  signature : String
  description : String
  call : Function

/-- The number in a value. -/
def toNumber (v : Value) : Except CallFault Number :=
  match v with
  | .number x => .ok x
  | .text s =>
    match Numeral.ofText? (Text.trim s.toList) with
    | some n => if n.value.isFinite then .ok n.value else .error (.notNumeral s)
    | none => .error (.notNumeral s)
  | v => .error (.notNumber v.typeName)

/-- Whole numbers beyond 64 bits stand for the outermost ones. -/
def clampInteger (i : Int) : Int :=
  max (-(Nat.pow 2 63 : Int)) (min i ((Nat.pow 2 63 : Int) - 1))

/-- The whole number in a value. -/
def toInteger (v : Value) : Except CallFault Int :=
  match toNumber v with
  | .error f => .error f
  | .ok x =>
    match x.whole? with
    | some i => .ok (clampInteger i)
    | none => .error (.notWhole v.rendered)

/-- The numbers in values, or the first fault. -/
def toNumbers : List Value → Except CallFault (List Number)
  | [] => .ok []
  | v :: rest =>
    match toNumber v with
    | .error f => .error f
    | .ok x =>
      match toNumbers rest with
      | .error f => .error f
      | .ok xs => .ok (x :: xs)

/-- The items of a list. -/
def toList (v : Value) : Except CallFault (List Value) :=
  match v with
  | .list items => .ok items
  | v => .error (.notList v.typeName)

/-- The fields of an object. -/
def toObject (v : Value) : Except CallFault Fields :=
  match v with
  | .object fields => .ok fields
  | v => .error (.notObject v.typeName)

/-- A text value. -/
def textValue (s : List Char) : Value := .text (String.ofList s)

theorem render_textValue (s : List Char) : (textValue s).render = s := String.toList_ofList

/-- The value of a count. -/
def countValue (n : Nat) : Value := .number (Number.ofNat n)

/-- A function of exactly one argument. -/
def unary (f : Value → Except CallFault Value) : Function
  | [a] => f a
  | args => .error (.arity 1 (some 1) args.length)

/-- A function of exactly two arguments. -/
def binary (f : Value → Value → Except CallFault Value) : Function
  | [a, b] => f a b
  | args => .error (.arity 2 (some 2) args.length)

/-- A function of exactly three arguments. -/
def ternary (f : Value → Value → Value → Except CallFault Value) : Function
  | [a, b, c] => f a b c
  | args => .error (.arity 3 (some 3) args.length)

/-- A function of one argument and an optional one, which is null if it is left out. -/
def unaryOptional (f : Value → Value → Except CallFault Value) : Function
  | [a] => f a .null
  | [a, b] => f a b
  | args => .error (.arity 1 (some 2) args.length)

/-- A function of two arguments and an optional one, which is null if it is left out. -/
def binaryOptional (f : Value → Value → Value → Except CallFault Value) : Function
  | [a, b] => f a b .null
  | [a, b, c] => f a b c
  | args => .error (.arity 2 (some 3) args.length)

/-- A function of at least one argument. -/
def variadic (f : List Value → Except CallFault Value) : Function
  | [] => .error (.arity 1 none 0)
  | args => f args

end TextTemplate.Library
