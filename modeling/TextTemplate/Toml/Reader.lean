import TextTemplate.Toml.Document
import TextTemplate.Toml.Scalar
import TextTemplate.Toml.Text

/-!
# Reading TOML

Values, and the lines of a document. Nesting is limited.

* `Toml.parse?` reads the text of a document as its outermost table.
-/

namespace TextTemplate.Toml

mutual

/-- A value; `depth` levels of nesting are left. -/
def value? : Nat → Nat → List Char → Option (Toml × List Char)
  | 0, _, _ => none
  | fuel + 1, depth, input =>
    match input with
    | '"' :: _ => (string? input).map fun (s, rest) => (.text s, rest)
    | '\'' :: _ => (string? input).map fun (s, rest) => (.text s, rest)
    | '[' :: rest =>
      match depth with
      | 0 => none
      | depth + 1 => items? fuel depth [] (skipLines rest.length rest)
    | '{' :: rest =>
      match depth with
      | 0 => none
      | depth + 1 => entries? fuel depth [] (skipLines rest.length rest)
    | input =>
      let (word, rest) := run input
      (ofRun? word).map fun v => (v, rest)

/-- The items of a list up to its bracket, those read so far in reverse. -/
def items? : Nat → Nat → List Toml → List Char → Option (Toml × List Char)
  | 0, _, _, _ => none
  | _ + 1, _, done, ']' :: rest => some (.list done.reverse, rest)
  | fuel + 1, depth, done, input => do
    let (item, rest) ← value? fuel depth input
    match skipLines rest.length rest with
    | ']' :: rest => some (.list (item :: done).reverse, rest)
    | ',' :: rest => items? fuel depth (item :: done) (skipLines rest.length rest)
    | _ => none

/-- The entries of a table up to its brace. -/
def entries? : Nat → Nat → Table Toml → List Char → Option (Toml × List Char)
  | 0, _, _, _ => none
  | _ + 1, _, done, '}' :: rest => some (.table .inlined done, rest)
  | fuel + 1, depth, done, input => do
    let (names, rest) ← keys? input
    match skipLines rest.length rest with
    | '=' :: rest =>
      let (v, rest) ← value? fuel depth (skipLines rest.length rest)
      let done ← insert? names v done
      match skipLines rest.length rest with
      | '}' :: rest => some (.table .inlined done, rest)
      | ',' :: rest => entries? fuel depth done (skipLines rest.length rest)
      | _ => none
    | _ => none

end

/-- The number of levels of nesting that are read. -/
def depthLimit : Nat := 80

/-- A line of a document, without what may follow it. -/
def line? : List Char → Option (TomlLine × List Char)
  | '[' :: '[' :: rest => do
    let (names, rest) ← keys? rest
    match rest with
    | ']' :: ']' :: rest => some (.tables names, rest)
    | _ => none
  | '[' :: rest => do
    let (names, rest) ← keys? rest
    match rest with
    | ']' :: rest => some (.table names, rest)
    | _ => none
  | input => do
    let (names, rest) ← keys? input
    match rest with
    | '=' :: rest =>
      let rest := skipSpace rest
      let (v, rest) ← value? (2 * rest.length + 2) depthLimit rest
      some (.entry names v, rest)
    | _ => none

/-- The lines of a document, each ended by a line break or the end of the text. -/
def linesOf? : Nat → List Char → Option (List TomlLine)
  | 0, _ => none
  | fuel + 1, input =>
    match skipLines input.length input with
    | [] => some []
    | rest => do
      let (line, rest) ← line? rest
      match skipComment (skipSpace rest) with
      | [] => some [line]
      | rest =>
        let rest ← lineBreak? rest
        let lines ← linesOf? fuel rest
        some (line :: lines)

/-- Reads a document. A mark of the byte order in front of it is passed over. -/
def parse? (text : List Char) : Option (Table Toml) :=
  let text := match text with
    | '\ufeff' :: rest => rest
    | text => text
  (linesOf? (text.length + 1) text).bind ofLines?

end TextTemplate.Toml
