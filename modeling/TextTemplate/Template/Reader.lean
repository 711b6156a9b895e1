import TextTemplate.Template.Lexer
import TextTemplate.Template.Parser

/-!
# Templates from text

A text is cut at its placeholders `${…}`, whose contents are read as expressions.

* `pieces` cuts a text into literal text and the sources of placeholders.
* `Template.parse` reads a template, `Part.parse` a single expression.
-/

namespace TextTemplate

/-- A piece of the text of a template. Positions count bytes. -/
inductive Piece
  | text (s : List Char)
  /-- A placeholder: the position of its source, and the source. -/
  | placeholder (position : Nat) (source : List Char)
  /-- A placeholder without an end, and the position where it opens. -/
  | unclosed (position : Nat)
deriving DecidableEq

namespace Piece

/-- The text up to the brace that closes a placeholder, and what follows the brace. Braces nest,
and those inside quotes do not count; inside quotes a backslash keeps the next character. -/
def closing? : Nat → Option Char → List Char → Option (List Char × List Char)
  | _, _, [] => none
  | depth, some quote, c :: rest =>
    if c = '\\' then
      match rest with
      | [] => none
      | d :: rest => (closing? depth (some quote) rest).map fun (s, after) => (c :: d :: s, after)
    else
      let next := if c = quote then none else some quote
      (closing? depth next rest).map fun (s, after) => (c :: s, after)
  | depth, none, c :: rest =>
    if c = '}' ∧ depth = 0 then some ([], rest)
    else
      let quote := if c = '\'' ∨ c = '"' then some c else none
      let depth := if c = '{' then depth + 1 else if c = '}' then depth - 1 else depth
      (closing? depth quote rest).map fun (s, after) => (c :: s, after)

/-- Puts a character in front. -/
def consText (c : Char) : List Piece → List Piece
  | .text s :: rest => .text (c :: s) :: rest
  | rest => .text [c] :: rest

/-- The pieces of a text that starts at a position; `fuel` bounds their number. -/
def piecesFrom : Nat → Nat → List Char → List Piece
  | 0, _, _ => []
  | _ + 1, _, [] => []
  | fuel + 1, position, '$' :: '{' :: rest =>
    match closing? 0 none rest with
    | some (source, after) =>
      let start := position + 2
      .placeholder start source :: piecesFrom fuel (start + Text.byteLength source + 1) after
    | none => [.unclosed position]
  | fuel + 1, position, c :: rest => consText c (piecesFrom fuel (position + c.utf8Size) rest)

/-- The pieces of a text. -/
def pieces (text : List Char) : List Piece := piecesFrom text.length 0 text

end Piece

namespace Part

/-- Reads an expression that starts at position `base` of a template. -/
def parse (expression : List Char) (base : Nat) : Except SyntaxError Part :=
  if Text.trim expression = [] then .error ⟨.emptyExpression, base, ""⟩
  else
    let result := match Lexer.lexemes expression with
      | .ok lexemes => Parser.expression lexemes
      | .error f => .error f
    match result with
    | .ok part => .ok part
    | .error f => .error (f.toError expression base)

/-- The part for a piece of a template. -/
def ofPiece (template : List Char) : Piece → Except SyntaxError Part
  | .text s => .ok (.text (String.ofList s))
  | .placeholder position source => parse source position
  | .unclosed position =>
    .error ⟨.unclosedPlaceholder, position, String.ofList (Text.excerpt template position)⟩

end Part

/-- Reads a template; the error is the one of its first faulty placeholder. -/
def Template.parse (raw : String) : Except SyntaxError Template :=
  match (Piece.pieces raw.toList).mapM (Part.ofPiece raw.toList) with
  | .ok parts => .ok ⟨raw, parts⟩
  | .error e => .error e

end TextTemplate
