import TextTemplate.Number.Basic

/-!
# JSON documents

Integers and other numbers are kept apart: an integer is exact, and it is written without a point.
-/

namespace TextTemplate

/-- A JSON document. The members of an object are a table. -/
inductive Json
  | null
  | boolean (b : Bool)
  | integer (i : Int)
  | real (x : Number)
  | text (s : String)
  | list (items : List Json)
  | object (members : List (String × Json))

namespace Json

instance : Inhabited Json := ⟨.null⟩

mutual

/-- The number of documents and places in a document. -/
def size : Json → Nat
  | .list items => sizeItems items + 1
  | .object members => sizeMembers members + 1
  | _ => 1

def sizeItems : List Json → Nat
  | [] => 0
  | item :: rest => item.size + sizeItems rest + 1

def sizeMembers : List (String × Json) → Nat
  | [] => 0
  | (_, member) :: rest => member.size + sizeMembers rest + 1

end

end Json

end TextTemplate
