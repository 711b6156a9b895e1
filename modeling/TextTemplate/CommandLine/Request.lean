import TextTemplate.CommandLine.Options

/-!
# What a command line asks for

* `Request.ofArguments?` reads the arguments after the name of the program; none if the command
  line is not a valid one.
-/

namespace TextTemplate

inductive Command
  /-- Prints the value of a template, as text or as JSON. -/
  | evaluate (template : String) (context : Option String) (assignments : List String)
      (asJson : Bool)
  /-- Shows the structure of a template. -/
  | check (template : String)
  /-- Lists completions. -/
  | suggest (typed : String) (context : Option String) (asJson : Bool)
  /-- Lists the functions. -/
  | functions

/-- A command, and the file of its settings if one is named. -/
structure Request where
  settings : Option String
  command : Command

namespace Request

def settingsOption : CommandOption := .path "config" none

def contextOption : CommandOption := .path "context" (some 'c')

def assignmentOption : CommandOption := ⟨"set", some 's', true, true, true⟩

def jsonOption : CommandOption := .flag "json" none

/-- The options in front of a command, which it takes as well. -/
def commonOptions : List CommandOption :=
  [settingsOption, .flag "verbose" (some 'v'), .flag "no-color" none]

/-- The options of a command besides the common ones. -/
def optionsOf : String → List CommandOption
  | "eval" => [contextOption, assignmentOption, jsonOption]
  | "suggest" => [contextOption, jsonOption]
  | _ => []

/-- The command of a name with its options and words. -/
def command? (name : String) (o : Options) : Option Command :=
  match name, o.words with
  | "eval", [template] =>
    some (.evaluate template (o.value? contextOption) (o.values assignmentOption)
      (o.has jsonOption))
  | "check", [template] => some (.check template)
  | "suggest", [typed] => some (.suggest typed (o.value? contextOption) (o.has jsonOption))
  | "functions", [] => some .functions
  | _, _ => none

/-- Reads a command line. The settings that a command names win over those named before it. -/
def ofArguments? (args : List String) : Option Request := do
  let common ← Options.read? commonOptions true args
  match common.rest with
  | [] => none
  | name :: args =>
    let own ← Options.read? (commonOptions ++ optionsOf name) false args
    let command ← command? name own
    some ⟨(own.value? settingsOption).or (common.value? settingsOption), command⟩

end Request

end TextTemplate
