import TextTemplate.Template.Part
import TextTemplate.Value.Json

/-!
# Templates as JSON

A part is an object of one member whose name is the kind of the part. What has components is an
object of them, in which members of other names are ignored. A template may also be a list of its
components in order.

* `Template.toJson` writes a template, `Template.ofJson?` reads one.
-/

namespace TextTemplate

/-- The components of a document by name. -/
def Json.components? (names : List String) : Json → Option (List (Option Json))
  | .object members => some (names.map (Table.get? members))
  | _ => none

def Json.asText? : Json → Option String
  | .text s => some s
  | _ => none

/-- A text, or none where it is null or missing. -/
def Json.asOptionalText? : Option Json → Option (Option String)
  | none => some none
  | some .null => some none
  | some (.text s) => some (some s)
  | some _ => none

namespace Comparison

/-- The name of an operator in JSON. -/
def name : Comparison → String
  | .eq => "Eq"
  | .ne => "Ne"
  | .lt => "Lt"
  | .le => "Le"
  | .gt => "Gt"
  | .ge => "Ge"

def all : List Comparison := [.eq, .ne, .lt, .le, .gt, .ge]

def toJson (op : Comparison) : Json := .text op.name

/-- An operator is written as its name, or as an object that maps its name to null. -/
def ofJson? : Json → Option Comparison
  | .text s => all.find? fun op => op.name == s
  | .object [(s, .null)] => all.find? fun op => op.name == s
  | _ => none

end Comparison

namespace Part

mutual

def toJson : Part → Json
  | .text s => .object [("Text", .text s)]
  | .literal v => .object [("Literal", v.serialized)]
  | .variable path => .object [("Variable", .object [("path", .text path)])]
  | .call function args =>
    .object [("Function", .object [("name", .text function), ("args", .list (allToJson args))])]
  | .coalesce left right =>
    .object [("NullCoalesce", .object [("left", left.toJson), ("right", right.toJson)])]
  | .forEach item index collection body =>
    let index := match index with
      | some index => .text index
      | none => .null
    .object [("ForEach", .object [("item", .text item), ("index", index),
      ("collection", collection.toJson), ("body", body.toJson)])]

def allToJson : List Part → List Json
  | [] => []
  | part :: rest => part.toJson :: allToJson rest

end

mutual

/-- Reads a part; `fuel` bounds its depth. -/
def ofJson? : Nat → Json → Option Part
  | 0, _ => none
  | fuel + 1, .object [(kind, content)] =>
    if kind = "Text" then content.asText?.map .text
    else if kind = "Literal" then some (.literal (Value.ofJson content))
    else if kind = "Variable" then
      match content.components? ["path"] with
      | some [some path] => path.asText?.map .variable
      | _ => none
    else if kind = "Function" then
      match content.components? ["name", "args"] with
      | some [some name, some (.list args)] => do
        let name ← name.asText?
        let args ← allOfJson? fuel args
        some (.call name args)
      | _ => none
    else if kind = "NullCoalesce" then
      match content.components? ["left", "right"] with
      | some [some left, some right] => do
        let left ← ofJson? fuel left
        let right ← ofJson? fuel right
        some (.coalesce left right)
      | _ => none
    else if kind = "ForEach" then
      match content.components? ["item", "index", "collection", "body"] with
      | some [some item, index, some collection, some body] => do
        let item ← item.asText?
        let index ← Json.asOptionalText? index
        let collection ← ofJson? fuel collection
        let body ← ofJson? fuel body
        some (.forEach item index collection body)
      | _ => none
    else none
  | _, _ => none

def allOfJson? : Nat → List Json → Option (List Part)
  | 0, _ => none
  | _, [] => some []
  | fuel + 1, document :: rest => do
    let part ← ofJson? fuel document
    let more ← allOfJson? fuel rest
    some (part :: more)

end

end Part

namespace Template

def toJson (t : Template) : Json :=
  .object [("raw", .text t.raw), ("parts", .list (Part.allToJson t.parts))]

/-- The template of two components. -/
def ofComponents? : List (Option Json) → Option Template
  | [some (.text raw), some (.list parts)] =>
    (Part.allOfJson? ((Json.list parts).size + 1) parts).map fun parts => ⟨raw, parts⟩
  | _ => none

/-- Reads a template. -/
def ofJson? (document : Json) : Option Template :=
  match document with
  | .list items => ofComponents? (items.map some)
  | document => (document.components? ["raw", "parts"]).bind ofComponents?

end Template

end TextTemplate
