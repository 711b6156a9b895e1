import TextTemplate.Engine.Basic
import TextTemplate.Json.Writer
import TextTemplate.Template.Dependencies
import TextTemplate.Template.Printer

/-!
# Reports

What the commands print.
-/

namespace TextTemplate.Report

/-- A line with its line break. -/
def line (text : List Char) : List Char := text ++ ['\n']

/-- A text with blanks after it, up to a width. -/
def padded (width : Nat) (text : List Char) : List Char :=
  text ++ List.replicate (width - text.length) ' '

/-- A number with blanks in front of it, up to a width. -/
def aligned (width n : Nat) : List Char :=
  let digits := Nat.toDigits 10 n
  List.replicate (width - digits.length) ' ' ++ digits

/-- A line two blanks deep. -/
def indented (text : List Char) : List Char := line (' ' :: ' ' :: text)

/-! ## Values -/

/-- The value of a template as text or as JSON. -/
def value (asJson : Bool) (v : Value) : List Char :=
  line (if asJson then v.toJson.indented else v.render)

/-! ## Templates -/

def kind : Part → String
  | .text _ => "text"
  | .literal _ => "literal"
  | .variable _ => "variable"
  | .call _ _ => "call"
  | .coalesce _ _ => "coalesce"
  | .forEach _ _ _ _ => "forEach"

/-- Literal text is shown in quotes, all else by its source. -/
def shown : Part → List Char
  | .text s => Text.quoted s.toList
  | part => part.source

/-- The parts by number, kind and source. -/
def parts (number : Nat) : List Part → List Char
  | [] => []
  | part :: rest =>
    indented (aligned 2 number ++ ". ".toList ++ padded 9 (kind part).toList ++ ' ' :: shown part)
      ++ parts (number + 1) rest

/-- A root variable, and whether the registry has it. -/
def root (registry : Registry) (name : String) : List Char :=
  let origin := if (registry.bindings.get? name).isSome then "registered" else "context"
  indented (name.toList ++ " (".toList ++ origin.toList ++ [')'])

/-- The variables of a template, and the names that they start with. -/
def dependencies (registry : Registry) (t : Template) : List Char :=
  let paths := t.variablePaths
  let roots := t.rootVariables
  line "Variables:".toList
    ++ (if paths = [] then indented "(none)".toList
      else paths.flatMap fun path => indented path.toList)
    ++ (if roots = [] then []
      else line [] ++ line "Roots:".toList ++ roots.flatMap (root registry))

/-- The structure of a template. -/
def template (registry : Registry) (t : Template) : List Char :=
  line "✓ Template is valid".toList ++ line [] ++ line "Parts:".toList
    ++ (match t.parts with
      | [] => indented "(empty)".toList
      | all => parts 0 all)
    ++ line []
    ++ (if t.isTextOnly then line "No expressions; the text is rendered verbatim".toList
      else dependencies registry t)

/-! ## Suggestions and functions -/

/-- A suggestion with its type, and its signature or its sample. -/
def suggestion (s : Suggestion) : List Char :=
  let detail := match s.signature with
    | some signature => signature.toList
    | none => s.sample.toJson.compact
  indented (padded 32 s.expression.toList ++ ' ' :: padded 9 s.type.toList ++ ' ' :: detail)

/-- A blank line and a line with a count. -/
def total (n : Nat) (what : String) : List Char :=
  line [] ++ line (Nat.toDigits 10 n ++ ' ' :: what.toList)

/-- Suggestions as lines or as JSON. -/
def suggestions (asJson : Bool) (all : List Suggestion) : List Char :=
  if asJson then line (Json.list (all.map Suggestion.toJson)).indented
  else if all.isEmpty then line "No suggestions".toList
  else all.flatMap suggestion ++ total all.length "suggestion(s)"

/-- A function with its description. -/
def function (entry : FunctionEntry) : List Char :=
  indented (padded 36 entry.signature.toList ++ ' ' :: entry.description.toList)

/-- The functions of a registry. -/
def functions (registry : Registry) : List Char :=
  let all := registry.functions.entries
  if all.isEmpty then line "No functions registered".toList
  else all.flatMap function ++ total all.length "function(s)"

end TextTemplate.Report
