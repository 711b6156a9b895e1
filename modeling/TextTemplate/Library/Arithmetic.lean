import TextTemplate.Library.Arguments
import TextTemplate.Number.Arithmetic

/-!
# Arithmetic functions

Every operand is coerced to a number. A zero divisor is a fault.
-/

namespace TextTemplate.Library

/-- The arguments as numbers; a single list stands for its items. -/
def numbers : List Value → Except CallFault (List Number)
  | [.list items] => toNumbers items
  | args => toNumbers args

/-- A function of the numbers in at least one argument. -/
def aggregate (f : List Number → Except CallFault Number) : Function :=
  variadic fun args =>
    match numbers args with
    | .ok xs => (f xs).map .number
    | .error fault => .error fault

/-- A function of two numbers. -/
def arithmetic₂ (f : Number → Number → Except CallFault Number) : Function :=
  binary fun a b =>
    match toNumber a with
    | .error fault => .error fault
    | .ok x =>
      match toNumber b with
      | .error fault => .error fault
      | .ok y => (f x y).map .number

/-- A function of one number. -/
def arithmetic₁ (f : Number → Number) : Function := unary fun a => (toNumber a).map (.number ∘ f)

def add : Function := aggregate fun xs => .ok (Number.sum xs)

def subtract : Function := arithmetic₂ fun x y => .ok (x.sub y)

def multiply : Function := aggregate fun xs => .ok (Number.product xs)

def divide : Function :=
  arithmetic₂ fun x y => if y.isZero then .error .divisionByZero else .ok (x.div y)

def modulo : Function :=
  arithmetic₂ fun x y => if y.isZero then .error .moduloByZero else .ok (x.rem y)

/-- The number of decimal places in an argument; none are zero places. -/
def places (v : Value) : Except CallFault Nat :=
  match v with
  | .null => .ok 0
  | v =>
    match toInteger v with
    | .error f => .error f
    | .ok i => if 0 ≤ i ∧ i ≤ 15 then .ok i.toNat else .error (.placesOutOfRange i)

def round : Function :=
  unaryOptional fun a b =>
    match toNumber a with
    | .error f => .error f
    | .ok x => (places b).map fun n => .number (x.roundTo n)

/-- The best of the numbers by a choice between two. -/
def extremum (name : String) (choose : Number → Number → Number) : Function := fun args =>
  match numbers args with
  | .error f => .error f
  | .ok [] => .error (.noNumbers name)
  | .ok (x :: xs) => .ok (.number (xs.foldl choose x))

def min : Function := extremum "min" Number.min

def max : Function := extremum "max" Number.max

def average : Function :=
  aggregate fun xs =>
    if xs.isEmpty then .error .emptyAverage
    else .ok ((Number.sum xs).div (Number.ofNat xs.length))

def arithmetic : List Builtin :=
  [⟨"add", "add(a, b, ...)", "Sum of all arguments", add⟩,
   ⟨"subtract", "subtract(a, b)", "a minus b", subtract⟩,
   ⟨"multiply", "multiply(a, b, ...)", "Product of all arguments", multiply⟩,
   ⟨"divide", "divide(a, b)", "a divided by b; fails when b is zero", divide⟩,
   ⟨"mod", "mod(a, b)", "Remainder of a divided by b; fails when b is zero", modulo⟩,
   ⟨"round", "round(value, places?)",
     "Rounds to the given number of decimal places (default 0)", round⟩,
   ⟨"floor", "floor(value)", "Largest whole number not greater than value",
     arithmetic₁ Number.floor⟩,
   ⟨"ceil", "ceil(value)", "Smallest whole number not less than value",
     arithmetic₁ Number.ceil⟩,
   ⟨"abs", "abs(value)", "Absolute value", arithmetic₁ Number.abs⟩,
   ⟨"min", "min(a, b, ...)", "Smallest argument, or smallest element of a single array", min⟩,
   ⟨"max", "max(a, b, ...)", "Largest argument, or largest element of a single array", max⟩,
   ⟨"sum", "sum(array)", "Sum of the numbers in an array", add⟩,
   ⟨"avg", "avg(array)", "Average of the numbers in an array", average⟩]

end TextTemplate.Library
