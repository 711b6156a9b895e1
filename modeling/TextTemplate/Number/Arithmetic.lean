import TextTemplate.Number.Basic

/-!
# Arithmetic on numbers

Each operation is the exact result rounded once to the nearest number. An operation without a
meaningful result, such as `∞ - ∞`, gives the negative not-a-number; an operand that is not a
number is passed on, the first one if both are.
-/

namespace TextTemplate.Number

/-- The signed count of units of a finite number. -/
def signedUnits (negative : Bool) (m : Magnitude) : Int :=
  if negative then -(m.units : Int) else m.units

def neg : Number → Number
  | .finite s m => .finite (!s) m
  | .infinite s => .infinite (!s)
  | .nan s => .nan (!s)

def abs : Number → Number
  | .finite _ m => .finite false m
  | .infinite _ => .infinite false
  | .nan _ => .nan false

/-- A sum that is exactly zero is negative only if both operands are. -/
def add : Number → Number → Number
  | .nan s, _ => .nan s
  | _, .nan s => .nan s
  | .infinite s, .infinite t => if s = t then .infinite s else .nan true
  | .infinite s, .finite _ _ => .infinite s
  | .finite _ _, .infinite t => .infinite t
  | .finite s a, .finite t b =>
    let total := signedUnits s a + signedUnits t b
    if total = 0 then .finite (s && t) Magnitude.zero
    else ofRatio (decide (total < 0)) total.natAbs 1

def sub (a b : Number) : Number :=
  match a, b with
  | .nan s, _ => .nan s
  | _, .nan s => .nan s
  | a, b => add a (neg b)

def mul : Number → Number → Number
  | .nan s, _ => .nan s
  | _, .nan s => .nan s
  | .infinite s, .infinite t => .infinite (s != t)
  | .infinite s, .finite t b => if b.units = 0 then .nan true else .infinite (s != t)
  | .finite s a, .infinite t => if a.units = 0 then .nan true else .infinite (s != t)
  | .finite s a, .finite t b => ofRatio (s != t) (a.units * b.units) Magnitude.one

def div : Number → Number → Number
  | .nan s, _ => .nan s
  | _, .nan s => .nan s
  | .infinite _, .infinite _ => .nan true
  | .infinite s, .finite t _ => .infinite (s != t)
  | .finite s _, .infinite t => .finite (s != t) Magnitude.zero
  | .finite s a, .finite t b =>
    if b.units = 0 then
      if a.units = 0 then .nan true else .infinite (s != t)
    else ofRatio (s != t) (a.units * Magnitude.one) b.units

/-- The remainder of the division toward zero; it has the sign of the dividend. -/
def rem : Number → Number → Number
  | .nan s, _ => .nan s
  | _, .nan s => .nan s
  | .infinite _, _ => .nan true
  | .finite s a, .infinite _ => .finite s a
  | .finite s a, .finite _ b =>
    if b.units = 0 then .nan true else ofRatio s (a.units % b.units) 1

/-- Applies a rounding of magnitudes to whole ones; other numbers stay as they are. -/
def roundWith (round : Bool → Nat → Nat) : Number → Number
  | .finite s m => ofRatio s (round s m.units * Magnitude.one) 1
  | x => x

/-- The largest whole number that is not greater. -/
def floor : Number → Number :=
  roundWith fun negative units =>
    if negative then (units + (Magnitude.one - 1)) / Magnitude.one else units / Magnitude.one

/-- The smallest whole number that is not less. -/
def ceil : Number → Number :=
  roundWith fun negative units =>
    if negative then units / Magnitude.one else (units + (Magnitude.one - 1)) / Magnitude.one

/-- The nearest whole number; a half goes away from zero. -/
def round : Number → Number :=
  roundWith fun _ units => (2 * units + Magnitude.one) / (2 * Magnitude.one)

/-- Rounds to `places` decimal places by scaling, rounding and scaling back. -/
def roundTo (x : Number) (places : Nat) : Number :=
  let factor := ofNat (Nat.pow 10 places)
  div (round (mul x factor)) factor

/-- The sum from left to right; no numbers add up to negative zero, the neutral element. -/
def sum (xs : List Number) : Number := xs.foldl add negativeZero

/-- The product from left to right. -/
def product (xs : List Number) : Number := xs.foldl mul (ofNat 1)

end TextTemplate.Number
