import TextTemplate.Json.Basic
import TextTemplate.Value.Basic

/-!
# Values as JSON

`toJson` writes whole numbers of the 64-bit range as integers; `serialized` keeps every number a
number with a point. Infinities and not-a-number become null in both.
-/

namespace TextTemplate.Value

/-- A number as JSON: an integer when it is whole and of magnitude below `2 ^ 63`. -/
def numberJson (x : Number) : Json :=
  match x.whole? with
  | some i => if i.natAbs < Nat.pow 2 63 then .integer i else .real x
  | none => if x.isFinite then .real x else .null

mutual

def toJson : Value → Json
  | .null => .null
  | .boolean b => .boolean b
  | .number x => numberJson x
  | .text s => .text s
  | .list items => .list (itemsJson items)
  | .object fields => .object (fieldsJson fields)

def itemsJson : List Value → List Json
  | [] => []
  | item :: rest => item.toJson :: itemsJson rest

def fieldsJson : List (String × Value) → List (String × Json)
  | [] => []
  | (name, value) :: rest => (name, value.toJson) :: fieldsJson rest

end

mutual

def serialized : Value → Json
  | .null => .null
  | .boolean b => .boolean b
  | .number x => if x.isFinite then .real x else .null
  | .text s => .text s
  | .list items => .list (itemsSerialized items)
  | .object fields => .object (fieldsSerialized fields)

def itemsSerialized : List Value → List Json
  | [] => []
  | item :: rest => item.serialized :: itemsSerialized rest

def fieldsSerialized : List (String × Value) → List (String × Json)
  | [] => []
  | (name, value) :: rest => (name, value.serialized) :: fieldsSerialized rest

end

mutual

/-- The value of a document; every number becomes the nearest double. -/
def ofJson : Json → Value
  | .null => .null
  | .boolean b => .boolean b
  | .integer i => .number (Number.ofInt i)
  | .real x => .number x
  | .text s => .text s
  | .list items => .list (itemsOfJson items)
  | .object members => .object (fieldsOfJson members)

def itemsOfJson : List Json → List Value
  | [] => []
  | item :: rest => ofJson item :: itemsOfJson rest

def fieldsOfJson : List (String × Json) → List (String × Value)
  | [] => []
  | (name, member) :: rest => (name, ofJson member) :: fieldsOfJson rest

end

end TextTemplate.Value
