import TextTemplate.Library.Arguments

/-!
# Comparison functions

Two values that both are or read as numbers compare as numbers. Otherwise equality is structural,
and only two texts have an order, that of their code points.
-/

namespace TextTemplate.Library

/-- Equality with numeric coercion. -/
def valuesEqual (a b : Value) : Bool :=
  match toNumber a, toNumber b with
  | .ok x, .ok y => x.same y
  | _, _ => a.same b

def compareTexts (a b : String) : Ordering :=
  if a < b then .lt else if a = b then .eq else .gt

/-- The order of two values. -/
def compareValues (a b : Value) : Except CallFault Ordering :=
  match toNumber a, toNumber b with
  | .ok x, .ok y =>
    match x.compare? y with
    | some order => .ok order
    | none => .error (.unordered (String.ofList x.plain) (String.ofList y.plain))
  | _, _ =>
    match a, b with
    | .text s, .text t => .ok (compareTexts s t)
    | a, b => .error (.unordered a.typeName b.typeName)

/-- A comparison that accepts some orders. -/
def ordered (accept : Ordering → Bool) : Function :=
  binary fun a b => (compareValues a b).map fun order => .boolean (accept order)

def eq : Function := binary fun a b => .ok (.boolean (valuesEqual a b))

def ne : Function := binary fun a b => .ok (.boolean (!valuesEqual a b))

def gt : Function := ordered Ordering.isGT

def lt : Function := ordered Ordering.isLT

def gte : Function := ordered Ordering.isGE

def lte : Function := ordered Ordering.isLE

def comparison : List Builtin :=
  [⟨"eq", "eq(a, b)", "True when a equals b; numeric strings compare as numbers", eq⟩,
   ⟨"ne", "ne(a, b)", "True when a does not equal b", ne⟩,
   ⟨"gt", "gt(a, b)", "True when a > b (numbers, or two strings)", gt⟩,
   ⟨"lt", "lt(a, b)", "True when a < b (numbers, or two strings)", lt⟩,
   ⟨"gte", "gte(a, b)", "True when a >= b (numbers, or two strings)", gte⟩,
   ⟨"lte", "lte(a, b)", "True when a <= b (numbers, or two strings)", lte⟩]

end TextTemplate.Library
