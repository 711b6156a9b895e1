import TextTemplate.Json.Basic
import TextTemplate.Number.Numeral

/-!
# Writing JSON

The compact form has no white space; the indented form puts every item and member on a line of its
own, two spaces deeper than what holds it.
-/

namespace TextTemplate.Json

/-- A character inside a string. -/
def stringChar (c : Char) : List Char :=
  match c with
  | '"' => "\\\"".toList
  | '\\' => "\\\\".toList
  | '\x08' => "\\b".toList
  | '\x0c' => "\\f".toList
  | '\n' => "\\n".toList
  | '\r' => "\\r".toList
  | '\t' => "\\t".toList
  | c =>
    if c.toNat < 0x20 then
      let digits := Nat.toDigits 16 c.toNat
      "\\u".toList ++ List.replicate (4 - digits.length) '0' ++ digits
    else [c]

def stringText (s : String) : List Char := '"' :: s.toList.flatMap stringChar ++ ['"']

/-- The text of a document that is neither a list nor an object. -/
def scalarText : Json → List Char
  | .boolean true => "true".toList
  | .boolean false => "false".toList
  | .integer i => (toString i).toList
  | .real x => (x.jsonText?).getD "null".toList
  | .text s => stringText s
  | _ => "null".toList

mutual

/-- The compact form. -/
def compact : Json → List Char
  | .list items => '[' :: compactItems items ++ [']']
  | .object members => '{' :: compactMembers members ++ ['}']
  | scalar => scalarText scalar

def compactItems : List Json → List Char
  | [] => []
  | [item] => item.compact
  | item :: next :: rest => item.compact ++ ',' :: compactItems (next :: rest)

def compactMembers : List (String × Json) → List Char
  | [] => []
  | [(name, member)] => stringText name ++ ':' :: member.compact
  | (name, member) :: next :: rest =>
    stringText name ++ ':' :: member.compact ++ ',' :: compactMembers (next :: rest)

end

/-- A line break and the indentation of a level. -/
def newLine (level : Nat) : List Char := '\n' :: List.replicate (2 * level) ' '

mutual

/-- The indented form at a level. -/
def indentedAt (level : Nat) : Json → List Char
  | .list [] => "[]".toList
  | .list (item :: rest) =>
    '[' :: indentedItems (level + 1) (item :: rest) ++ newLine level ++ [']']
  | .object [] => ['{', '}']
  | .object (member :: rest) =>
    '{' :: indentedMembers (level + 1) (member :: rest) ++ newLine level ++ ['}']
  | scalar => scalarText scalar

def indentedItems (level : Nat) : List Json → List Char
  | [] => []
  | [item] => newLine level ++ item.indentedAt level
  | item :: next :: rest =>
    newLine level ++ item.indentedAt level ++ ',' :: indentedItems level (next :: rest)

def indentedMembers (level : Nat) : List (String × Json) → List Char
  | [] => []
  | [(name, member)] => newLine level ++ stringText name ++ ": ".toList ++ member.indentedAt level
  | (name, member) :: next :: rest =>
    newLine level ++ stringText name ++ ": ".toList ++ member.indentedAt level
      ++ ',' :: indentedMembers level (next :: rest)

end

/-- The indented form. -/
def indented (document : Json) : List Char := document.indentedAt 0

end TextTemplate.Json
