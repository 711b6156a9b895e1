import TextTemplate.CommandLine.Fault
import TextTemplate.CommandLine.Report
import TextTemplate.CommandLine.Request
import TextTemplate.Engine.SettingsToml
import TextTemplate.Json.Reader

/-!
# Running commands

A command sees files only through the surroundings that it is run in, so that its output is a
function of them.

* `Request.run` is the output of a request, or the fault that it ends with before any output.
-/

namespace TextTemplate

/-- What is found at a path. -/
inductive FileContent
  /-- Nothing is there; the reason is that of an attempt to read it. -/
  | missing (reason : String)
  /-- Something is there that cannot be read as text. -/
  | unreadable (reason : String)
  | text (s : String)

/-- What a command sees of the world. -/
structure Surroundings where
  file : String → FileContent
  /-- The path of the settings that hold if no others are named. -/
  defaultSettings : String
  /-- The current universal time. -/
  clock : Calendar.DateTime

namespace Surroundings

/-- The settings in a file. -/
def settingsAt (w : Surroundings) (path : String) : Except SettingsFault EngineSettings :=
  match w.file path with
  | .missing reason => .error (.unreadable path reason)
  | .unreadable reason => .error (.unreadable path reason)
  | .text s =>
    match EngineSettings.ofToml? s.toList with
    | some settings => .ok settings
    | none => .error (.invalid path)

/-- The settings of a request: those it names, else the default file if it is there. -/
def settings (w : Surroundings) : Option String → Except CommandFault EngineSettings
  | some path => (w.settingsAt path).mapError (.settings path)
  | none =>
    match w.file w.defaultSettings with
    | .missing _ => .ok {}
    | _ => (w.settingsAt w.defaultSettings).mapError .defaultSettings

/-- The context in a file; none is named for an empty one. -/
def context (w : Surroundings) : Option String → Except CommandFault Fields
  | none => .ok []
  | some path =>
    match w.file path with
    | .missing _ => .error (.noContext path)
    | .unreadable reason => .error (.unreadableContext path reason)
    | .text s =>
      match (Json.parse? s.toList).map Value.ofJson with
      | none => .error (.invalidContext path)
      | some (.object fields) => .ok fields
      | some v => .error (.contextType v.typeName path)

end Surroundings

/-- An assignment `name=value`; the value is read as JSON, or else it is text. -/
def assignment (s : String) : Except CommandFault (String × Value) :=
  let name := s.toList.takeWhile (· != '=')
  match s.toList.drop name.length with
  | [] => .error (.noAssignment s)
  | _ :: value =>
    let name := Text.trim name
    if name = [] then .error (.noName s)
    else
      let v := match Json.parse? value with
        | some document => Value.ofJson document
        | none => .text (String.ofList value)
      .ok (String.ofList name, v)

/-- Adds assignments to a context in order. -/
def assign : Fields → List String → Except CommandFault Fields
  | context, [] => .ok context
  | context, s :: rest =>
    match assignment s with
    | .error f => .error f
    | .ok (name, v) => assign (context.put name v) rest

namespace Command

/-- The output of a command. -/
def run (w : Surroundings) (engine : Engine) : Command → Except CommandFault (List Char)
  | .evaluate template file assignments asJson => do
    let context ← w.context file
    let context ← assign context assignments
    let v ← (engine.evaluate template context).1.mapError .engine
    .ok (Report.value asJson v)
  | .check template => do
    let kept ← (engine.parse template).1.mapError fun e => .engine (.reading e)
    .ok (Report.template engine.registry kept.template)
  | .suggest typed file asJson => do
    let context ← w.context file
    let engine := { engine with registry := engine.registry.setVariables context }
    .ok (Report.suggestions asJson (engine.complete typed))
  | .functions => .ok (Report.functions engine.registry)

end Command

/-- The output of a request. -/
def Request.run (w : Surroundings) (request : Request) : Except CommandFault (List Char) := do
  let settings ← w.settings request.settings
  request.command.run w (Engine.ofSettings w.clock settings)

end TextTemplate
