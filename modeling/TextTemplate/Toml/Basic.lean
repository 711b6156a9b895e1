import TextTemplate.Number.Basic
import TextTemplate.Table

/-!
# TOML documents

The values of TOML, and how each of its tables came to be: that decides what may still be added to
a table.
-/

namespace TextTemplate

/-- How a table came to be. -/
inductive TomlOrigin
  /-- Written between braces; it is complete. -/
  | inlined
  /-- Named by a header. -/
  | header
  /-- Only passed by a header on the way to another table. -/
  | passed
  /-- Passed by a dotted key. -/
  | dotted
deriving DecidableEq

inductive Toml
  | text (s : String)
  | integer (i : Int)
  | real (x : Number)
  | boolean (b : Bool)
  /-- A date, a time or both, in canonical form. -/
  | date (s : String)
  | list (items : List Toml)
  | table (origin : TomlOrigin) (entries : List (String × Toml))
  /-- Tables that are named by headers in double brackets, the last one first. -/
  | tables (all : List (List (String × Toml)))

instance : Inhabited Toml := ⟨.boolean false⟩

end TextTemplate
