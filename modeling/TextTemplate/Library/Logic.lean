import TextTemplate.Library.Arguments

/-!
# Logical functions

They see their arguments as values: all of them have been evaluated before the call.
-/

namespace TextTemplate.Library

/-- The second argument if the first is truthy, else the third. -/
def ifThenElse : Function := binaryOptional fun c a b => .ok (if c.isTruthy then a else b)

def and : Function := variadic fun args => .ok (.boolean (args.all Value.isTruthy))

def or : Function := variadic fun args => .ok (.boolean (args.any Value.isTruthy))

def not : Function := unary fun a => .ok (.boolean (!a.isTruthy))

def logic : List Builtin :=
  [⟨"if", "if(condition, then, else)", "Returns then when condition is truthy, else otherwise",
     ifThenElse⟩,
   ⟨"and", "and(a, b, ...)", "True when every argument is truthy", and⟩,
   ⟨"or", "or(a, b, ...)", "True when any argument is truthy", or⟩,
   ⟨"not", "not(value)", "Negates the truthiness of value", not⟩]

end TextTemplate.Library
