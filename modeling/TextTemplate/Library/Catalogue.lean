import TextTemplate.Library.Arithmetic
import TextTemplate.Library.Collections
import TextTemplate.Library.Conversion
import TextTemplate.Library.Dates
import TextTemplate.Library.Logic
import TextTemplate.Library.Nulls
import TextTemplate.Library.Texts

/-!
# The library of functions
-/

namespace TextTemplate.Library

/-- All library functions by category; `clock` is the current universal time. -/
def catalogue (clock : Calendar.DateTime) : List (String × List Builtin) :=
  [("comparison", comparison), ("logic", logic), ("arithmetic", arithmetic), ("string", texts),
   ("collection", collections), ("conversion", conversion), ("null handling", nulls),
   ("date", dates clock)]

/-- All library functions. -/
def builtins (clock : Calendar.DateTime) : List Builtin := (catalogue clock).flatMap Prod.snd

/-- Registers library functions. -/
def register (r : Registry) (functions : List Builtin) : Registry :=
  functions.foldl (fun r b => r.setFunction b.name ⟨b.call, b.signature, b.description⟩) r

/-- The registry of the library alone. -/
def registry (clock : Calendar.DateTime) : Registry := register Registry.empty (builtins clock)

end TextTemplate.Library
