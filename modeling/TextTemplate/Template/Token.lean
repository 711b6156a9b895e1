import TextTemplate.Number.Numeral
import TextTemplate.Value.Basic

/-!
# Tokens of the expression language
-/

namespace TextTemplate

inductive Token
  | name (s : String)
  | number (x : Number)
  | text (s : String)
  | boolean (b : Bool)
  | null
  | minus
  | eq
  | ne
  | lt
  | le
  | gt
  | ge
  | question
  | colon
  /-- The coalescing operator `??`. -/
  | coalesce
  | dot
  | comma
  | leftParen
  | rightParen
  | leftBracket
  | rightBracket
  /-- A character that starts no token; the grammar has no place for it. -/
  | unknown (c : Char)
  | finish
deriving DecidableEq

/-- How messages name a token. -/
def Token.describe : Token → String
  | .name s => "identifier '" ++ s ++ "'"
  | .number x => "number " ++ String.ofList x.plain
  | .text s => "string '" ++ s ++ "'"
  | .boolean b => String.ofList (Value.booleanText b)
  | .null => "null"
  | .minus => "'-'"
  | .eq => "'=='"
  | .ne => "'!='"
  | .lt => "'<'"
  | .le => "'<='"
  | .gt => "'>'"
  | .ge => "'>='"
  | .question => "'?'"
  | .colon => "':'"
  | .coalesce => "'??'"
  | .dot => "'.'"
  | .comma => "','"
  | .leftParen => "'('"
  | .rightParen => "')'"
  | .leftBracket => "'['"
  | .rightBracket => "']'"
  | .unknown c => "character '" ++ c.toString ++ "'"
  | .finish => "end of expression"

/-- A token and the position where it starts. -/
structure Lexeme where
  token : Token
  position : Nat
deriving DecidableEq

end TextTemplate
