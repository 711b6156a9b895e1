import TextTemplate.Library.Arguments

/-!
# Functions for missing values
-/

namespace TextTemplate.Library

def default : Function := binary fun a b => .ok (if a.isEmptyLike then b else a)

/-- The first value that is not empty, else the last one. -/
def firstPresent (args : List Value) : Value :=
  match args.find? fun v => !v.isEmptyLike with
  | some v => v
  | none => args.getLast?.getD .null

def coalesce : Function := fun args => .ok (firstPresent args)

def isNull : Function := unary fun a => .ok (.boolean a.isNull)

def isEmpty : Function :=
  unary fun a =>
    .ok (.boolean (match a with
      | .list items => items.isEmpty
      | .object fields => fields.isEmpty
      | a => a.isEmptyLike))

def nulls : List Builtin :=
  [⟨"default", "default(value, fallback)",
     "Returns fallback when value is null or an empty string", default⟩,
   ⟨"coalesce", "coalesce(a, b, ...)",
     "First argument that is neither null nor empty; the last one otherwise", coalesce⟩,
   ⟨"isNull", "isNull(value)", "True when value is null", isNull⟩,
   ⟨"isEmpty", "isEmpty(value)", "True for null, empty strings, empty arrays and empty objects",
     isEmpty⟩]

end TextTemplate.Library
