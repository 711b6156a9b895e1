import TextTemplate.Number.Arithmetic
import TextTemplate.Path
import TextTemplate.Template.Fault
import TextTemplate.Template.Part

/-!
# Expressions from tokens

The grammar, loosest binding first:

    ternary    = coalesce ("?" ternary ":" ternary)?
    coalesce   = comparison ("??" coalesce)?
    comparison = operand (op operand)?
    operand    = "(" ternary ")" | literal | "-" number | call | forEach | path

One comparison is allowed between two operands. A left operand of `??` that cannot be read up to
the `??` counts as null.

* `Parser.expression` reads a list of lexemes as one expression.
-/

namespace TextTemplate

/-- What a reader of lexemes arrives at. -/
inductive Parsed (α : Type)
  | done (result : α) (rest : List Lexeme)
  | fault (f : LocatedFault)
  /-- The bound on the number of steps was too small. -/
  | exhausted

/-- Goes on after a success. -/
def Parsed.andThen {α β : Type} (p : Parsed α) (next : α → List Lexeme → Parsed β) : Parsed β :=
  match p with
  | .done result rest => next result rest
  | .fault f => .fault f
  | .exhausted => .exhausted

namespace Parser

/-- The token to be read next. -/
def current : List Lexeme → Token
  | [] => .finish
  | lexeme :: _ => lexeme.token

/-- The position of the token to be read next. -/
def position : List Lexeme → Nat
  | [] => 0
  | lexeme :: _ => lexeme.position

/-- A fault at the token to be read next. -/
def faultAt {α : Type} (fault : SyntaxFault) (lexemes : List Lexeme) : Parsed α :=
  .fault ⟨fault, position lexemes⟩

/-- Reads one given token. -/
def expect (token : Token) (what : String) (lexemes : List Lexeme) : Parsed Unit :=
  if current lexemes = token then .done () lexemes.tail
  else faultAt (.missing what (current lexemes)) lexemes

/-- Can an operand of `??` end before this token? -/
def endsOperand : Token → Bool
  | .coalesce | .question | .colon | .rightParen | .comma | .finish => true
  | _ => false

/-- The lexemes from the next `??` on that belongs to the same argument or branch; `depth` brackets
are open. -/
def coalesceFrom? : Nat → List Lexeme → Option (List Lexeme)
  | _, [] => none
  | depth, lexeme :: rest =>
    match lexeme.token with
    | .leftParen | .leftBracket => coalesceFrom? (depth + 1) rest
    | .rightParen => if depth = 0 then none else coalesceFrom? (depth - 1) rest
    | .rightBracket => coalesceFrom? (depth - 1) rest
    | .coalesce => if depth = 0 then some (lexeme :: rest) else coalesceFrom? depth rest
    | .comma | .question | .colon => if depth = 0 then none else coalesceFrom? depth rest
    | .finish => none
    | _ => coalesceFrom? depth rest

/-- The operator of a comparison token. -/
def comparison? : Token → Option Comparison
  | .eq => some .eq
  | .ne => some .ne
  | .lt => some .lt
  | .le => some .le
  | .gt => some .gt
  | .ge => some .ge
  | _ => none

/-- The index that a number in brackets stands for. A number beyond the bound of indices stands for
the largest one. -/
def indexOf? (x : Number) : Option Nat :=
  match x.whole? with
  | some i => if 0 ≤ i then some (min i.toNat (Path.indexLimit - 1)) else none
  | none => none

/-- The key that a token names after a point. -/
def fieldName? : Token → Option String
  | .name s => some s
  | .boolean b => some (String.ofList (Value.booleanText b))
  | .null => some "null"
  | _ => none

/-- Fields and indices after the root of a path. -/
def segments : List Lexeme → Parsed Path
  | [] => .done [] []
  | lexeme :: rest =>
    match lexeme.token with
    | .dot =>
      match rest with
      | [] => faultAt .noFieldName []
      | field :: after =>
        match fieldName? field.token with
        | some name => (segments after).andThen fun path rest => .done (.key name :: path) rest
        | none => faultAt .noFieldName (field :: after)
    | .leftBracket =>
      match rest with
      | [] => faultAt .noIndex []
      | index :: after =>
        match index.token with
        | .number x =>
          match indexOf? x with
          | some i =>
            match after with
            | [] => faultAt (.missing "']'" .finish) []
            | close :: after =>
              if close.token = .rightBracket then
                (segments after).andThen fun path rest => .done (.index i :: path) rest
              else faultAt (.missing "']'" close.token) (close :: after)
          | none => faultAt .noIndex (index :: after)
        | _ => faultAt .noIndex (index :: after)
    | _ => .done [] (lexeme :: rest)

/-- A variable that starts with a name. -/
def pathPart (root : String) (lexemes : List Lexeme) : Parsed Part :=
  (segments lexemes).andThen fun path rest =>
    .done (.variable (String.ofList (Path.join (.key root :: path)))) rest

/-- The name of a variable without fields and indices. -/
def plainName? : Part → Option String
  | .variable path => if path.toList.any fun c => c == '.' || c == '[' then none else some path
  | _ => none

/-- The loop of a call of `forEach`. -/
def forEachOf : List Part → Except SyntaxFault Part
  | [item, collection, body] =>
    match plainName? item with
    | some item => .ok (.forEach item none collection body)
    | none => .error .forEachItem
  | [item, index, collection, body] =>
    match plainName? item with
    | some item =>
      match plainName? index with
      | some index => .ok (.forEach item (some index) collection body)
      | none => .error .forEachIndex
    | none => .error .forEachItem
  | _ => .error .forEachArity

/-- A call of a function, `opening` being the position of its parenthesis. -/
def callOf (function : String) (opening : Nat) (args : List Part) (rest : List Lexeme) :
    Parsed Part :=
  if function = "forEach" then
    match forEachOf args with
    | .ok part => .done part rest
    | .error fault => .fault ⟨fault, opening⟩
  else .done (.call function args) rest

mutual

def ternary : Nat → List Lexeme → Parsed Part
  | 0, _ => .exhausted
  | fuel + 1, lexemes =>
    (coalesce fuel lexemes).andThen fun condition rest =>
      if current rest = .question then
        (ternary fuel rest.tail).andThen fun yes rest =>
          (expect .colon "':' in conditional expression" rest).andThen fun _ rest =>
            (ternary fuel rest).andThen fun no rest => .done (.ternary condition yes no) rest
      else .done condition rest

def coalesce : Nat → List Lexeme → Parsed Part
  | 0, _ => .exhausted
  | fuel + 1, lexemes =>
    (coalesceOperand fuel lexemes).andThen fun left rest =>
      if current rest = .coalesce then
        (coalesce fuel rest.tail).andThen fun right rest => .done (.coalesce left right) rest
      else .done left rest

/-- An operand of `??`; one that cannot be read up to a `??` of the same scope is null. -/
def coalesceOperand : Nat → List Lexeme → Parsed Part
  | 0, _ => .exhausted
  | fuel + 1, lexemes =>
    let recover (failure : Parsed Part) : Parsed Part :=
      match coalesceFrom? 0 lexemes with
      | some rest => .done (.literal .null) rest
      | none => failure
    match comparison fuel lexemes with
    | .done part rest =>
      if endsOperand (current rest) then .done part rest else recover (.done part rest)
    | .fault f => recover (.fault f)
    | .exhausted => .exhausted

def comparison : Nat → List Lexeme → Parsed Part
  | 0, _ => .exhausted
  | fuel + 1, lexemes =>
    (operand fuel lexemes).andThen fun left rest =>
      match comparison? (current rest) with
      | some op =>
        (operand fuel rest.tail).andThen fun right rest => .done (.compare left op right) rest
      | none => .done left rest

def operand : Nat → List Lexeme → Parsed Part
  | 0, _ => .exhausted
  | fuel + 1, lexemes =>
    match current lexemes with
    | .leftParen =>
      (ternary fuel lexemes.tail).andThen fun part rest =>
        (expect .rightParen "')'" rest).andThen fun _ rest => .done part rest
    | .number x => .done (.literal (.number x)) lexemes.tail
    | .minus =>
      match current lexemes.tail with
      | .number x => .done (.literal (.number x.neg)) lexemes.tail.tail
      | found => faultAt (.missing "number after '-'" found) lexemes.tail
    | .text s => .done (.literal (.text s)) lexemes.tail
    | .boolean b => .done (.literal (.boolean b)) lexemes.tail
    | .null => .done (.literal .null) lexemes.tail
    | .name name =>
      if current lexemes.tail = .leftParen then
        let opening := position lexemes.tail
        let inside := lexemes.tail.tail
        if current inside = .rightParen then callOf name opening [] inside.tail
        else (arguments name fuel inside).andThen fun args rest => callOf name opening args rest
      else pathPart name lexemes.tail
    | .finish => faultAt .noOperand lexemes
    | found => faultAt (.unexpected found) lexemes

/-- The arguments of a call, one at least, up to its closing parenthesis. -/
def arguments (name : String) : Nat → List Lexeme → Parsed (List Part)
  | 0, _ => .exhausted
  | fuel + 1, lexemes =>
    (ternary fuel lexemes).andThen fun arg rest =>
      match current rest with
      | .comma => (arguments name fuel rest.tail).andThen fun args rest => .done (arg :: args) rest
      | .rightParen => .done [arg] rest.tail
      | .finish => faultAt (.unclosedCall name) rest
      | found => faultAt (.callSeparator name found) rest

end

/-- Steps enough to read so many lexemes. -/
def fuelFor (lexemes : List Lexeme) : Nat := 6 * lexemes.length + 6

/-- Reads all lexemes as one expression. -/
def expression (lexemes : List Lexeme) : Except LocatedFault Part :=
  match ternary (fuelFor lexemes) lexemes with
  | .done part rest =>
    if current rest = .finish then .ok part
    else .error ⟨.trailing (current rest), position rest⟩
  | .fault f => .error f
  | .exhausted => .error ⟨.noOperand, position lexemes⟩

end Parser

end TextTemplate
