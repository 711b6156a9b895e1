import TextTemplate.Template.Token
import TextTemplate.Text.Position

/-!
# Faults in the source of a template
-/

namespace TextTemplate

/-- Why a text is not a template. -/
inductive SyntaxFault
  | unclosedPlaceholder
  | emptyExpression
  | unclosedText
  | trailing (found : Token)
  | missing (what : String) (found : Token)
  | noOperand
  | unexpected (found : Token)
  | unclosedCall (function : String)
  | callSeparator (function : String) (found : Token)
  | noFieldName
  | noIndex
  | forEachArity
  | forEachItem
  | forEachIndex
deriving DecidableEq

def SyntaxFault.message : SyntaxFault → String
  | .unclosedPlaceholder => "unclosed expression, expected '\x7d'"
  | .emptyExpression => "empty expression"
  | .unclosedText => "unclosed string literal"
  | .trailing found => "unexpected " ++ found.describe ++ " after expression"
  | .missing what found => "expected " ++ what ++ ", found " ++ found.describe
  | .noOperand => "expected expression"
  | .unexpected found => "unexpected " ++ found.describe
  | .unclosedCall function => "unclosed '(' in call to " ++ function
  | .callSeparator function found =>
    "expected ',' or ')' in call to " ++ function ++ ", found " ++ found.describe
  | .noFieldName => "expected field name after '.'"
  | .noIndex => "expected non-negative integer index"
  | .forEachArity =>
    "forEach expects (item, collection, body) or (item, index, collection, body)"
  | .forEachItem => "forEach item variable must be a plain identifier"
  | .forEachIndex => "forEach index variable must be a plain identifier"

/-- A fault and where in an expression it was found. -/
structure LocatedFault where
  fault : SyntaxFault
  position : Nat
deriving DecidableEq

/-- A fault at a position of the whole template, with the text found there. -/
structure SyntaxError where
  fault : SyntaxFault
  position : Nat
  excerpt : String
deriving DecidableEq

namespace SyntaxError

def message (e : SyntaxError) : String :=
  "at position " ++ toString e.position ++ ": " ++ e.fault.message
    ++ (if e.excerpt.isEmpty then "" else " (near '" ++ e.excerpt ++ "')")

end SyntaxError

/-- The error for a fault in an expression that starts at position `base` of the template. -/
def LocatedFault.toError (f : LocatedFault) (expression : List Char) (base : Nat) : SyntaxError :=
  ⟨f.fault, base + f.position, String.ofList (Text.excerpt expression f.position)⟩

end TextTemplate
