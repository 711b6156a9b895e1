import TextTemplate.Number.Basic

/-!
# Order of numbers

Two orders. `compare?` is the numeric one: both zeros are equal and not-a-number compares with
nothing. `rank` is the total one used for sorting: it separates the zeros and puts not-a-number
outside the infinities, on the side of its sign.
-/

namespace TextTemplate.Number

/-- Numeric position: the signed units, with the infinities just outside; none for not-a-number. -/
def position? : Number → Option Int
  | .finite negative m => some (if negative then -(m.units : Int) else m.units)
  | .infinite negative => some (if negative then -(Magnitude.limit : Int) else Magnitude.limit)
  | .nan _ => none

def compare? (a b : Number) : Option Ordering :=
  match position? a, position? b with
  | some x, some y => some (compare x y)
  | _, _ => none

/-- Numeric equality: zeros are equal whatever their sign, not-a-number equals nothing. -/
def same (a b : Number) : Bool :=
  match position? a, position? b with
  | some x, some y => x == y
  | _, _ => false

def less (a b : Number) : Bool := compare? a b == some .lt

/-- Position in the total order of numbers. -/
def rank : Number → Int
  | .finite false m => m.units
  | .infinite false => Magnitude.limit
  | .nan false => (Magnitude.limit : Int) + 1
  | .finite true m => -(m.units : Int) - 1
  | .infinite true => -(Magnitude.limit : Int) - 1
  | .nan true => -(Magnitude.limit : Int) - 2

/-- The smaller of two; one that is not a number gives way to the other. Of two that do not differ
the first is taken. -/
def min (a b : Number) : Number :=
  if b.isNaN then a else if a.isNaN || less b a then b else a

/-- The larger of two; one that is not a number gives way to the other. Of two that do not differ
the first is taken. -/
def max (a b : Number) : Number :=
  if b.isNaN then a else if a.isNaN || less a b then b else a

end TextTemplate.Number
