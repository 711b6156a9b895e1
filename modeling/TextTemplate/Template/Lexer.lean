import TextTemplate.Template.Fault
import TextTemplate.Text.Blank
import TextTemplate.Text.Letter

/-!
# Tokens of an expression

`Lexer.lexemes` splits the text of an expression into tokens. White space separates tokens and is
dropped; every other character belongs to exactly one token.
-/

namespace TextTemplate.Lexer

/-- Starts an identifier. -/
def isNameStart (c : Char) : Bool := Text.isLetter c || c == '_' || c == '$'

/-- Continues an identifier. -/
def isNamePart (c : Char) : Bool := Text.isLetterOrNumeric c || c == '_' || c == '$'

/-- An identifier or one of the three words. -/
def wordToken (word : String) : Token :=
  if word = "true" then .boolean true
  else if word = "false" then .boolean false
  else if word = "null" then .null
  else .name word

/-- A string literal after its opening quote; a backslash keeps the next character. -/
def stringBody? (quote : Char) : List Char → Option (List Char × List Char)
  | [] => none
  | ['\\'] => none
  | '\\' :: c :: rest =>
    let c := if c = 'n' then '\n' else if c = 't' then '\t' else c
    (stringBody? quote rest).map fun (body, rest) => (c :: body, rest)
  | c :: rest =>
    if c = quote then some ([], rest)
    else (stringBody? quote rest).map fun (body, rest) => (c :: body, rest)

/-- The digits of a numeral before and after its point, and the rest. A point belongs to the
numeral only if a digit follows. -/
def numeral (text : List Char) : Numeral × List Char :=
  let whole := text.takeWhile Char.isDigit
  let rest := text.dropWhile Char.isDigit
  match rest with
  | '.' :: d :: after =>
    if d.isDigit then
      (⟨false, whole, (d :: after).takeWhile Char.isDigit, 0⟩,
        (d :: after).dropWhile Char.isDigit)
    else (⟨false, whole, [], 0⟩, rest)
  | _ => (⟨false, whole, [], 0⟩, rest)

/-- A token that is one character. -/
def single? (c : Char) : Option Token :=
  match c with
  | '-' => some .minus
  | '.' => some .dot
  | ',' => some .comma
  | '(' => some .leftParen
  | ')' => some .rightParen
  | '[' => some .leftBracket
  | ']' => some .rightBracket
  | ':' => some .colon
  | _ => none

/-- An operator of one or two characters: the first one, the second one, the token of both, and
the token of the first one alone. -/
def operator? (c : Char) : Option (Char × Token × Token) :=
  match c with
  | '?' => some ('?', .coalesce, .question)
  | '=' => some ('=', .eq, .unknown '=')
  | '!' => some ('=', .ne, .unknown '!')
  | '<' => some ('=', .le, .lt)
  | '>' => some ('=', .ge, .gt)
  | _ => none

/-- The token at the start of a text that begins with `c`, and the rest; none for an unclosed
string literal. -/
def next? (c : Char) (rest : List Char) : Option (Token × List Char) :=
  match single? c with
  | some token => some (token, rest)
  | none =>
    match operator? c with
    | some (second, both, alone) =>
      match rest with
      | d :: after => if d = second then some (both, after) else some (alone, rest)
      | [] => some (alone, rest)
    | none =>
      if c = '\'' ∨ c = '"' then
        (stringBody? c rest).map fun (body, rest) => (.text (String.ofList body), rest)
      else if c.isDigit then
        let (n, rest) := numeral (c :: rest)
        some (.number n.value, rest)
      else if isNameStart c then
        some (wordToken (String.ofList (c :: rest.takeWhile isNamePart)), rest.dropWhile isNamePart)
      else some (.unknown c, rest)

/-- The lexemes of a text that starts at a position; `fuel` bounds their number. -/
def lexemesFrom : Nat → Nat → List Char → Except LocatedFault (List Lexeme)
  | 0, position, _ => .ok [⟨.finish, position⟩]
  | fuel + 1, position, text =>
    let start := Text.trimStart text
    let position := position + (Text.byteLength text - Text.byteLength start)
    match start with
    | [] => .ok [⟨.finish, position⟩]
    | c :: rest =>
      match next? c rest with
      | none => .error ⟨.unclosedText, position⟩
      | some (token, after) =>
        let length := Text.byteLength (c :: rest) - Text.byteLength after
        match lexemesFrom fuel (position + length) after with
        | .error fault => .error fault
        | .ok lexemes => .ok (⟨token, position⟩ :: lexemes)

/-- The lexemes of an expression, the last one marking its end. -/
def lexemes (text : List Char) : Except LocatedFault (List Lexeme) :=
  lexemesFrom (text.length + 1) 0 text

end TextTemplate.Lexer
