import TextTemplate.Template.Part

/-!
# The source of parts

`Part.source` and `Template.source` write parts back in the language of templates. A coalescing
left operand is put in parentheses, because coalescing groups to the right.
-/

namespace TextTemplate

namespace Part

/-- A character inside a string literal. -/
def literalChar (c : Char) : List Char :=
  match c with
  | '\'' => "\\'".toList
  | '\\' => "\\\\".toList
  | '\n' => "\\n".toList
  | '\t' => "\\t".toList
  | c => [c]

/-- A constant in the source. -/
def literalSource : Value → List Char
  | .null => "null".toList
  | .text s => '\'' :: s.toList.flatMap literalChar ++ ['\'']
  | v => v.render

def isCoalesce : Part → Bool
  | .coalesce _ _ => true
  | _ => false

mutual

/-- The source of a part. -/
def source : Part → List Char
  | .text s => s.toList
  | .literal v => literalSource v
  | .variable path => path.toList
  | .call function args => function.toList ++ '(' :: argsSource args ++ [')']
  | .coalesce left right =>
    (if left.isCoalesce then '(' :: left.source ++ [')'] else left.source)
      ++ " ?? ".toList ++ right.source
  | .forEach item index collection body =>
    "forEach(".toList ++ item.toList ++ ", ".toList
      ++ (match index with
        | some index => index.toList ++ ", ".toList
        | none => [])
      ++ collection.source ++ ", ".toList ++ body.source ++ [')']

/-- The sources of arguments, separated by commas. -/
def argsSource : List Part → List Char
  | [] => []
  | [arg] => arg.source
  | arg :: next :: rest => arg.source ++ ", ".toList ++ argsSource (next :: rest)

end

/-- A part at the top of a template: text stands by itself, an expression in a placeholder. -/
def placed (part : Part) : List Char :=
  match part with
  | .text s => s.toList
  | part => ['$', '{'] ++ part.source ++ ['}']

end Part

/-- The canonical source of a template. -/
def Template.source (t : Template) : List Char := t.parts.flatMap Part.placed

end TextTemplate
