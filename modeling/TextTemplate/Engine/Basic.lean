import TextTemplate.Engine.Cache
import TextTemplate.Engine.Settings
import TextTemplate.Evaluation.Evaluate
import TextTemplate.Library.Catalogue
import TextTemplate.Suggestion.Completion

/-!
# Engines

An engine joins a registry with a cache of templates. What an operation does to the engine is part
of its result.
-/

namespace TextTemplate

/-- Why a source has no value. -/
inductive EngineFault
  | reading (e : SyntaxError)
  | evaluation (f : EvalFault)
deriving DecidableEq

namespace EngineFault

def isReading : EngineFault → Bool
  | .reading _ => true
  | .evaluation _ => false

def message : EngineFault → String
  | .reading e => "parse error " ++ e.message
  | .evaluation f => "evaluation error: " ++ f.message

end EngineFault

structure Engine where
  settings : EngineSettings
  registry : Registry
  cache : Cache

namespace Engine

/-- A new engine; `clock` is the current universal time. -/
def ofSettings (clock : Calendar.DateTime) (settings : EngineSettings) : Engine where
  settings := settings
  registry :=
    (if settings.library then Library.registry clock else Registry.empty).setVariables
      settings.bindings
  cache := Cache.empty

/-- The template of a source, from the cache if it is there. -/
def parse (e : Engine) (raw : String) : Except SyntaxError KeptTemplate × Engine :=
  let (result, cache) := e.cache.parse raw
  (result, { e with cache := cache })

/-- The value of a source in a context. -/
def evaluate (e : Engine) (raw : String) (context : Fields) : Except EngineFault Value × Engine :=
  match e.parse raw with
  | (.error fault, e) => (.error (.reading fault), e)
  | (.ok kept, e) => ((kept.template.evaluate e.registry context).mapError .evaluation, e)

/-- The rendering of the value of a source in a context. -/
def render (e : Engine) (raw : String) (context : Fields) : Except EngineFault String × Engine :=
  let (result, e) := e.evaluate raw context
  (result.map Value.rendered, e)

/-- Forgets all templates that were read. -/
def clearCache (e : Engine) : Engine := { e with cache := e.cache.clear }

/-- Everything that can be suggested. -/
def suggestions (e : Engine) : List Suggestion := Suggestion.all e.settings.suggestions e.registry

/-- The completions of what is typed so far. -/
def complete (e : Engine) (partialText : String) : List Suggestion :=
  Suggestion.complete e.settings.suggestions e.suggestions partialText

end Engine

end TextTemplate
