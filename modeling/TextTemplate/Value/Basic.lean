import TextTemplate.Number.Numeral
import TextTemplate.Number.Order
import TextTemplate.Table

/-!
# Values

The values that expressions produce and consume, their rendering in text, truth and equality.
-/

namespace TextTemplate

/-- A dynamic value. The fields of an object are a table. -/
inductive Value
  | null
  | boolean (b : Bool)
  | number (x : Number)
  | text (s : String)
  | list (items : List Value)
  | object (fields : List (String × Value))

/-- Named values: the fields of an object, an evaluation context, the variables of a registry. -/
abbrev Fields := Table Value

namespace Value

instance : Inhabited Value := ⟨.null⟩

/-- The name of a value's type in messages and suggestions. -/
def typeName : Value → String
  | .null => "null"
  | .boolean _ => "boolean"
  | .number _ => "number"
  | .text _ => "string"
  | .list _ => "array"
  | .object _ => "object"

def isNull : Value → Bool
  | .null => true
  | _ => false

/-- Null or the empty text: what coalescing passes over. -/
def isEmptyLike : Value → Bool
  | .null => true
  | .text s => s.isEmpty
  | _ => false

/-- False of null, `false`, zero and the empty text only. -/
def isTruthy : Value → Bool
  | .null => false
  | .boolean b => b
  | .number x => !x.isZero
  | .text s => !s.isEmpty
  | .list _ => true
  | .object _ => true

def asText? : Value → Option String
  | .text s => some s
  | _ => none

def asBoolean? : Value → Option Bool
  | .boolean b => some b
  | _ => none

def asNumber? : Value → Option Number
  | .number x => some x
  | _ => none

def asList? : Value → Option (List Value)
  | .list items => some items
  | _ => none

def asObject? : Value → Option Fields
  | .object fields => some fields
  | _ => none

/-- `true` or `false`. -/
def booleanText (b : Bool) : List Char := if b then "true".toList else "false".toList

mutual

/-- The rendering of a value in text; null leaves nothing. -/
def render : Value → List Char
  | .null => []
  | .boolean b => booleanText b
  | .number x => x.text
  | .text s => s.toList
  | .list items => '[' :: renderItems items ++ [']']
  | .object fields => "map[".toList ++ renderFields fields ++ [']']

/-- Renderings with a space between them. -/
def renderItems : List Value → List Char
  | [] => []
  | [item] => item.render
  | item :: next :: rest => item.render ++ ' ' :: renderItems (next :: rest)

/-- Names and renderings, joined by colons, with a space between the fields. -/
def renderFields : List (String × Value) → List Char
  | [] => []
  | [(name, value)] => name.toList ++ ':' :: value.render
  | (name, value) :: next :: rest =>
    name.toList ++ ':' :: value.render ++ ' ' :: renderFields (next :: rest)

end

/-- The rendering as a text value. -/
def rendered (v : Value) : String := String.ofList v.render

mutual

/-- Structural equality, with numeric equality of numbers. -/
def same : Value → Value → Bool
  | .null, .null => true
  | .boolean a, .boolean b => a == b
  | .number a, .number b => a.same b
  | .text a, .text b => a == b
  | .list a, .list b => sameItems a b
  | .object a, .object b => sameFields a b
  | _, _ => false

def sameItems : List Value → List Value → Bool
  | [], [] => true
  | a :: as, b :: bs => a.same b && sameItems as bs
  | _, _ => false

def sameFields : List (String × Value) → List (String × Value) → Bool
  | [], [] => true
  | (j, a) :: as, (k, b) :: bs => j == k && a.same b && sameFields as bs
  | _, _ => false

end

end Value

end TextTemplate
