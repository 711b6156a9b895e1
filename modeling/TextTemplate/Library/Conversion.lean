import TextTemplate.Library.Arguments

/-!
# Conversion functions
-/

namespace TextTemplate.Library

def convertNumber : Function :=
  unary fun a =>
    match a with
    | .boolean b => .ok (countValue (if b then 1 else 0))
    | a => (toNumber a).map .number

def convertText : Function := unary fun a => .ok (textValue a.render)

/-- Does the text, without white space around it, spell an ASCII word in any case? -/
def spells (word : String) (s : String) : Bool :=
  (Text.trim s.toList).map Char.toLower == word.toList

def convertBoolean : Function :=
  unary fun a =>
    match a with
    | .text s =>
      .ok (.boolean (if spells "true" s then true else if spells "false" s then false
        else a.isTruthy))
    | a => .ok (.boolean a.isTruthy)

def typeOf : Function := unary fun a => .ok (.text a.typeName)

def conversion : List Builtin :=
  [⟨"toNumber", "toNumber(value)", "Converts a number or numeric string to a number",
     convertNumber⟩,
   ⟨"toString", "toString(value)", "String form of value (null becomes \"\")", convertText⟩,
   ⟨"toBool", "toBool(value)",
     "\"true\"/\"false\" strings by name, anything else by truthiness", convertBoolean⟩,
   ⟨"typeOf", "typeOf(value)", "One of null, boolean, number, string, array, object", typeOf⟩]

end TextTemplate.Library
