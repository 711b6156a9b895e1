import TextTemplate.Suggestion.Basic

/-!
# Settings of an engine
-/

namespace TextTemplate

structure EngineSettings where
  /-- Does the engine start with the library functions? -/
  library : Bool := true
  /-- The variables that the engine starts with. -/
  bindings : Fields := []
  suggestions : SuggestionSettings := {}

namespace EngineSettings

/-- Equality of settings, with numeric equality of the numbers in variables. -/
def same (a b : EngineSettings) : Bool :=
  a.library == b.library && Value.sameFields a.bindings b.bindings
    && a.suggestions == b.suggestions

end EngineSettings

end TextTemplate
