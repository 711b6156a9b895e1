import TextTemplate.Engine.Settings
import TextTemplate.Toml.Reader

/-!
# Settings in TOML

A document of settings has the entries `standard_library`, `variables` and `suggestions`. What is
left out has its default, and entries of other names are ignored.

* `EngineSettings.ofToml?` reads the settings from the text of a document.
-/

namespace TextTemplate

/-- The name of the one field of the object that stands for a date. -/
def Toml.dateField : String := "$__toml_private_datetime"

mutual

/-- The value of a document; an integer has to fit 64 bits. -/
def Value.ofToml? : Toml → Option Value
  | .text s => some (.text s)
  | .integer i =>
    if -(Nat.pow 2 63 : Int) ≤ i ∧ i < (Nat.pow 2 64 : Int) then some (.number (Number.ofInt i))
    else none
  | .real x => some (.number x)
  | .boolean b => some (.boolean b)
  | .date s => some (.object [(Toml.dateField, .text s)])
  | .list items => (Value.itemsOfToml? items).map .list
  | .table _ entries => (Value.fieldsOfToml? entries).map .object
  | .tables all => (Value.tablesOfToml? all).map fun tables => .list tables.reverse

def Value.itemsOfToml? : List Toml → Option (List Value)
  | [] => some []
  | item :: rest => do
    let v ← Value.ofToml? item
    let values ← Value.itemsOfToml? rest
    some (v :: values)

def Value.fieldsOfToml? : List (String × Toml) → Option Fields
  | [] => some []
  | (name, entry) :: rest => do
    let v ← Value.ofToml? entry
    let fields ← Value.fieldsOfToml? rest
    some ((name, v) :: fields)

def Value.tablesOfToml? : List (List (String × Toml)) → Option (List Value)
  | [] => some []
  | entries :: rest => do
    let fields ← Value.fieldsOfToml? entries
    let values ← Value.tablesOfToml? rest
    some (.object fields :: values)

end

namespace Toml

/-- A truth value, or the default where there is none. -/
def boolean? (default : Bool) : Option Toml → Option Bool
  | none => some default
  | some (.boolean b) => some b
  | some _ => none

/-- A count, or the default where there is none. -/
def count? (default : Nat) : Option Toml → Option Nat
  | none => some default
  | some (.integer i) => if 0 ≤ i ∧ i < (Nat.pow 2 64 : Int) then some i.toNat else none
  | some _ => none

/-- The entries of a table; a date has none of any known name. -/
def fields? : Toml → Option (Table Toml)
  | .table _ entries => some entries
  | .date _ => some []
  | _ => none

end Toml

/-- The settings of suggestions from their entries. -/
def SuggestionSettings.ofEntries? (sampleChars sampleKeys limit fuzzy : Option Toml) :
    Option SuggestionSettings := do
  let sampleChars ← Toml.count? 20 sampleChars
  let sampleKeys ← Toml.count? 3 sampleKeys
  let limit ← match limit with
    | none => some none
    | limit => (Toml.count? 0 limit).map some
  let fuzzy ← Toml.boolean? true fuzzy
  some ⟨sampleChars, sampleKeys, limit, fuzzy⟩

/-- The settings of suggestions; they are in a table, or in a list in order. -/
def SuggestionSettings.ofToml? : Toml → Option SuggestionSettings
  | .list items => ofEntries? items[0]? items[1]? items[2]? items[3]?
  | document =>
    (Toml.fields? document).bind fun entries =>
      ofEntries? (entries.get? "max_sample_chars") (entries.get? "max_sample_keys")
        (entries.get? "limit") (entries.get? "fuzzy_fallback")

namespace EngineSettings

/-- The variables that a document gives. -/
def bindingsOf? : Option Toml → Option Fields
  | none => some []
  | some document =>
    match Value.ofToml? document with
    | some (.object fields) => some fields
    | _ => none

/-- The settings of a document. -/
def ofTable? (root : Table Toml) : Option EngineSettings := do
  let library ← Toml.boolean? true (root.get? "standard_library")
  let bindings ← bindingsOf? (root.get? "variables")
  let suggestions ← match root.get? "suggestions" with
    | none => some {}
    | some document => SuggestionSettings.ofToml? document
  some ⟨library, bindings, suggestions⟩

/-- Reads settings. -/
def ofToml? (text : List Char) : Option EngineSettings := (Toml.parse? text).bind ofTable?

end EngineSettings

end TextTemplate
