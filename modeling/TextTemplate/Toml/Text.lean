import TextTemplate.Text.Hex

/-!
# Texts in TOML

Strings, keys and comments. A basic string is in double quotes and has escapes; a literal one is in
single quotes and has none. In threefold quotes both may span lines. Every reader gives what it
read and the rest of the text.
-/

namespace TextTemplate.Toml

/-- White space inside a line. -/
def isSpace (c : Char) : Bool := c == ' ' || c == '\t'

/-- May the character stand in a comment or in a string on one line? -/
def isPlain (c : Char) : Bool := c == '\t' || (0x20 ≤ c.toNat && c.toNat != 0x7f)

def skipSpace (input : List Char) : List Char := input.dropWhile isSpace

/-- What follows a line break, if there is one. -/
def lineBreak? : List Char → Option (List Char)
  | '\n' :: rest => some rest
  | '\r' :: '\n' :: rest => some rest
  | _ => none

/-- Passes a comment, if there is one. -/
def skipComment : List Char → List Char
  | '#' :: rest => rest.dropWhile isPlain
  | input => input

/-- Passes white space, line breaks and comments; `fuel` bounds the number of lines. -/
def skipLines : Nat → List Char → List Char
  | 0, input => input
  | fuel + 1, input =>
    let rest := skipComment (skipSpace input)
    match lineBreak? rest with
    | some rest => skipLines fuel rest
    | none => rest

/-! ## Strings -/

/-- The character of a code point in an escape. -/
def codePoint? (digits : Nat) (input : List Char) : Option (Char × List Char) := do
  let (n, rest) ← Text.hexNumber? digits 0 input
  if n.isValidChar then some (Char.ofNat n, rest) else none

/-- The character of an escape, after its backslash. -/
def escape? : List Char → Option (Char × List Char)
  | '"' :: rest => some ('"', rest)
  | '\\' :: rest => some ('\\', rest)
  | 'b' :: rest => some ('\x08', rest)
  | 'e' :: rest => some ('\x1b', rest)
  | 'f' :: rest => some ('\x0c', rest)
  | 'n' :: rest => some ('\n', rest)
  | 'r' :: rest => some ('\r', rest)
  | 't' :: rest => some ('\t', rest)
  | 'x' :: rest => codePoint? 2 rest
  | 'u' :: rest => codePoint? 4 rest
  | 'U' :: rest => codePoint? 8 rest
  | _ => none

/-- A basic string on one line, after its quote; `done` is what was read, in reverse. -/
def basicFrom? : Nat → List Char → List Char → Option (String × List Char)
  | 0, _, _ => none
  | fuel + 1, done, input =>
    match input with
    | [] => none
    | '"' :: rest => some (String.ofList done.reverse, rest)
    | '\\' :: rest => do
      let (c, rest) ← escape? rest
      basicFrom? fuel (c :: done) rest
    | c :: rest => if isPlain c then basicFrom? fuel (c :: done) rest else none

/-- A literal string on one line, after its quote. -/
def literal? (input : List Char) : Option (String × List Char) :=
  let body := input.takeWhile fun c => isPlain c && c != '\''
  match input.drop body.length with
  | '\'' :: rest => some (String.ofList body, rest)
  | _ => none

/-- The end of a string over lines: up to two quotes of the string and three that close it. -/
def closing? (quote : Char) (input : List Char) : Option (List Char × List Char) :=
  let quotes := (input.take 5).takeWhile (· == quote)
  if 3 ≤ quotes.length then some (quotes.drop 3, input.drop quotes.length) else none

/-- Passes white space and line breaks. -/
def skipBlank : List Char → List Char
  | ' ' :: rest => skipBlank rest
  | '\t' :: rest => skipBlank rest
  | '\n' :: rest => skipBlank rest
  | '\r' :: '\n' :: rest => skipBlank rest
  | input => input

/-- What follows the white space and line breaks that a backslash at the end of a line joins. -/
def joinLines? (input : List Char) : Option (List Char) :=
  (lineBreak? (skipSpace input)).map skipBlank

/-- The rest of a string over lines, after its quotes. -/
def linesFrom? (quote : Char) : Nat → List Char → List Char → Option (String × List Char)
  | 0, _, _ => none
  | fuel + 1, done, input =>
    match closing? quote input with
    | some (quotes, rest) => some (String.ofList (done.reverse ++ quotes), rest)
    | none =>
      match input with
      | [] => none
      | '\\' :: rest =>
        if quote = '\'' then linesFrom? quote fuel ('\\' :: done) rest
        else
          match joinLines? rest with
          | some rest => linesFrom? quote fuel done rest
          | none => do
            let (c, rest) ← escape? rest
            linesFrom? quote fuel (c :: done) rest
      | '\n' :: rest => linesFrom? quote fuel ('\n' :: done) rest
      | '\r' :: '\n' :: rest => linesFrom? quote fuel ('\n' :: '\r' :: done) rest
      | c :: rest => if isPlain c then linesFrom? quote fuel (c :: done) rest else none

/-- A string over lines, after its quotes. A line break right at its start is left out. -/
def lines? (quote : Char) (input : List Char) : Option (String × List Char) :=
  let input := (lineBreak? input).getD input
  linesFrom? quote (input.length + 1) [] input

/-- A string. -/
def string? : List Char → Option (String × List Char)
  | '"' :: '"' :: '"' :: rest => lines? '"' rest
  | '\'' :: '\'' :: '\'' :: rest => lines? '\'' rest
  | '"' :: rest => basicFrom? (rest.length + 1) [] rest
  | '\'' :: rest => literal? rest
  | _ => none

/-! ## Keys -/

def isKeyChar (c : Char) : Bool := c.isAlphanum || c == '_' || c == '-'

/-- One key. -/
def key? : List Char → Option (String × List Char)
  | '"' :: rest => basicFrom? (rest.length + 1) [] rest
  | '\'' :: rest => literal? rest
  | input =>
    match input.takeWhile isKeyChar with
    | [] => none
    | name => some (String.ofList name, input.drop name.length)

/-- Keys with points between them; `fuel` bounds their number. -/
def keysFrom? : Nat → List Char → Option (List String × List Char)
  | 0, _ => none
  | fuel + 1, input => do
    let (name, rest) ← key? (skipSpace input)
    match skipSpace rest with
    | '.' :: rest =>
      let (names, rest) ← keysFrom? fuel rest
      some (name :: names, rest)
    | rest => some ([name], rest)

/-- The number of keys that may have points between them. -/
def keyLimit : Nat := 80

/-- Keys with points between them. -/
def keys? (input : List Char) : Option (List String × List Char) :=
  (keysFrom? (input.length + 1) input).filter fun (names, _) => names.length ≤ keyLimit

end TextTemplate.Toml
