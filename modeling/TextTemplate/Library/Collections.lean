import TextTemplate.Library.Comparison

/-!
# Collection functions
-/

namespace TextTemplate.Library

def first : Function := unary fun a => (toList a).map fun items => items.head?.getD .null

def last : Function := unary fun a => (toList a).map fun items => items.getLast?.getD .null

def count : Function :=
  unary fun a =>
    match a with
    | .null => .ok (countValue 0)
    | a => (toList a).map fun items => countValue items.length

/-- The item at an index; a negative one counts from the end. -/
def itemAt? (items : List Value) (index : Int) : Option Value :=
  if 0 ≤ index then items[index.toNat]?
  else if index.natAbs ≤ items.length then items[items.length - index.natAbs]?
  else none

def itemAt : Function :=
  binary fun a b =>
    match toList a with
    | .error f => .error f
    | .ok items => (toInteger b).map fun index => (itemAt? items index).getD .null

def keys : Function := unary fun a => (toObject a).map fun fields => .list (fields.names.map .text)

def values : Function := unary fun a => (toObject a).map fun fields => .list fields.entries

def includes : Function :=
  binary fun a b =>
    (toList a).map fun items => .boolean (items.any fun item => valuesEqual item b)

def reverse : Function := unary fun a => (toList a).map fun items => .list items.reverse

/-- Orders items by keys of a total order; items with equal keys keep their order. -/
def sortByKey {κ : Type} (le : κ → κ → Bool) (keyed : List (κ × Value)) : List Value :=
  (keyed.mergeSort fun a b => le a.1 b.1).map Prod.snd

/-- The texts of items that all are texts. -/
def allTexts? (items : List Value) : Option (List String) := items.mapM Value.asText?

/-- Sorts by number if every item is or reads as one, else by text if every item is one. -/
def sortItems (items : List Value) : Except CallFault (List Value) :=
  match toNumbers items with
  | .ok xs =>
    .ok (sortByKey (fun a b => decide (a ≤ b)) ((xs.map Number.rank).zip items))
  | .error _ =>
    match allTexts? items with
    | some texts => .ok (sortByKey (fun a b => !decide (b < a)) (texts.zip items))
    | none => .error (.unsortable (items.map Value.typeName))

def sort : Function :=
  unary fun a =>
    match toList a with
    | .error f => .error f
    | .ok items => (sortItems items).map .list

/-- Appends an item unless an equal one is there. -/
def addNew (seen : List Value) (item : Value) : List Value :=
  if seen.any fun s => s.same item then seen else seen ++ [item]

def unique : Function := unary fun a => (toList a).map fun items => .list (items.foldl addNew [])

def collections : List Builtin :=
  [⟨"first", "first(array)", "First item, or null for an empty array", first⟩,
   ⟨"last", "last(array)", "Last item, or null for an empty array", last⟩,
   ⟨"count", "count(array)", "Number of items in an array (null counts as empty)", count⟩,
   ⟨"at", "at(array, index)", "Item at index; negative indices count from the end", itemAt⟩,
   ⟨"keys", "keys(object)", "Keys of an object, sorted", keys⟩,
   ⟨"values", "values(object)", "Values of an object, in key order", values⟩,
   ⟨"includes", "includes(array, value)", "True when the array contains value", includes⟩,
   ⟨"reverse", "reverse(array)", "Items in reverse order", reverse⟩,
   ⟨"sort", "sort(array)", "Items sorted ascending (numbers or strings)", sort⟩,
   ⟨"unique", "unique(array)", "Items with duplicates removed, keeping the first occurrence",
     unique⟩]

end TextTemplate.Library
