import TextTemplate.Value.Basic

/-!
# Faults of an evaluation
-/

namespace TextTemplate

/-- Why a function refuses its arguments. -/
inductive CallFault
  /-- The number of arguments is outside of a range, whose upper end may be open. -/
  | arity (least : Nat) (most : Option Nat) (given : Nat)
  | notNumeral (s : String)
  | notNumber (type : String)
  | notWhole (shown : String)
  | notList (type : String)
  | notObject (type : String)
  | notDateText (type : String)
  | unknownDate (s : String)
  | unordered (left right : String)
  | unsortable (types : List String)
  | divisionByZero
  | moduloByZero
  | placesOutOfRange (places : Int)
  | noNumbers (function : String)
  | emptyAverage
  | padTooWide (width most : Int)
  | badDateFormat (format : String)
  | formatMismatch (format shown : String)
  | daysOutOfRange (days : Int) (shown : String)
  /-- A message of a function that is not part of the library. -/
  | custom (message : String)
deriving DecidableEq

namespace CallFault

/-- The number of arguments that a function wants. -/
def arityText (least : Nat) : Option Nat → String
  | none => "at least " ++ toString least
  | some most =>
    if least = most then toString least else toString least ++ " to " ++ toString most

def message : CallFault → String
  | .arity least most given =>
    "expected " ++ arityText least most
      ++ (if least = 1 ∧ most = some 1 then " argument" else " arguments")
      ++ ", got " ++ toString given
  | .notNumeral s => "cannot convert '" ++ s ++ "' to a number"
  | .notNumber type => "cannot convert " ++ type ++ " to a number"
  | .notWhole shown => "expected a whole number, got " ++ shown
  | .notList type => "expected an array, got " ++ type
  | .notObject type => "expected an object, got " ++ type
  | .notDateText type => "expected a date string, got " ++ type
  | .unknownDate s => "unrecognized date '" ++ s ++ "'"
  | .unordered left right => "cannot compare " ++ left ++ " and " ++ right
  | .unsortable types =>
    "cannot sort a mix of " ++ ", ".intercalate types
      ++ "; items must all be numbers or all be strings"
  | .divisionByZero => "division by zero"
  | .moduloByZero => "modulo by zero"
  | .placesOutOfRange places =>
    "decimal places must be between 0 and 15, got " ++ toString places
  | .noNumbers function => function ++ " needs at least one number"
  | .emptyAverage => "cannot average an empty array"
  | .padTooWide width most =>
    "pad width " ++ toString width ++ " exceeds the maximum of " ++ toString most
  | .badDateFormat format => "invalid date format '" ++ format ++ "'"
  | .formatMismatch format shown =>
    "format '" ++ format ++ "' does not apply to '" ++ shown ++ "'"
  | .daysOutOfRange days shown =>
    "adding " ++ toString days ++ " days to '" ++ shown ++ "' is out of range"
  | .custom message => message

end CallFault

/-- Why a template has no value in a context. -/
inductive EvalFault
  | variableNotFound (path : String)
  | functionNotFound (name : String)
  | call (name : String) (fault : CallFault)
  | notIterable (type : String)
deriving DecidableEq

def EvalFault.message : EvalFault → String
  | .variableNotFound path => "variable not found: " ++ path
  | .functionNotFound name => "function not found: " ++ name
  | .call name fault => name ++ ": " ++ fault.message
  | .notIterable type => "forEach expects an array or object, got " ++ type

end TextTemplate
