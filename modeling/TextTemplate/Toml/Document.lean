import TextTemplate.Toml.Basic

/-!
# Building a document from its lines

A header starts a table, and the entries after it go into that table. A table has one header at
most, and dotted keys extend only tables that dotted keys made; a name is used once in a table.
-/

namespace TextTemplate

/-- A line of a document. -/
inductive TomlLine
  /-- A header of a table. -/
  | table (names : List String)
  /-- A header of one more table under a name. -/
  | tables (names : List String)
  /-- An entry under a dotted key. -/
  | entry (names : List String) (v : Toml)

namespace Toml

/-- Adds an entry under a dotted key. -/
def insert? : List String → Toml → Table Toml → Option (Table Toml)
  | [], _, _ => none
  | [name], v, entries =>
    match entries.get? name with
    | none => some (entries.put name v)
    | some _ => none
  | name :: next :: names, v, entries =>
    match entries.get? name with
    | none =>
      (insert? (next :: names) v []).map fun inner => entries.put name (.table .dotted inner)
    | some (.table .dotted inner) =>
      (insert? (next :: names) v inner).map fun inner => entries.put name (.table .dotted inner)
    | some (.table .passed inner) =>
      if names = [] then none
      else
        (insert? (next :: names) v inner).map fun inner => entries.put name (.table .passed inner)
    | some (.tables (last :: before)) =>
      if names = [] then none
      else
        (insert? (next :: names) v last).map fun last =>
          entries.put name (.tables (last :: before))
    | some _ => none

/-- Changes the table under a path of names. Missing ones on the way are made, and of several
tables under one name the last is meant. -/
def change? (f : Table Toml → Option (Table Toml)) : List String → Table Toml → Option (Table Toml)
  | [], entries => f entries
  | name :: names, entries =>
    match entries.get? name with
    | none =>
      (change? f names []).map fun inner => entries.put name (.table .passed inner)
    | some (.table .inlined _) => none
    | some (.table origin inner) =>
      (change? f names inner).map fun inner => entries.put name (.table origin inner)
    | some (.tables (last :: before)) =>
      (change? f names last).map fun last => entries.put name (.tables (last :: before))
    | some _ => none

/-- Starts the table of a header. -/
def startTable? (name : String) (entries : Table Toml) : Option (Table Toml) :=
  match entries.get? name with
  | none => some (entries.put name (.table .header []))
  | some (.table .passed inner) => some (entries.put name (.table .header inner))
  | some _ => none

/-- Starts one more table under a name. -/
def startTables? (name : String) (entries : Table Toml) : Option (Table Toml) :=
  match entries.get? name with
  | none => some (entries.put name (.tables [[]]))
  | some (.tables before) => some (entries.put name (.tables ([] :: before)))
  | some _ => none

/-- Adds the lines that follow the header of the table at a path. -/
def addLines? : List String → Table Toml → List TomlLine → Option (Table Toml)
  | _, root, [] => some root
  | path, root, .entry names v :: rest =>
    (change? (insert? names v) path root).bind fun root => addLines? path root rest
  | _, root, .table names :: rest =>
    (change? (startTable? (names.getLast?.getD "")) names.dropLast root).bind fun root =>
      addLines? names root rest
  | _, root, .tables names :: rest =>
    (change? (startTables? (names.getLast?.getD "")) names.dropLast root).bind fun root =>
      addLines? names root rest

/-- The outermost table of a document. -/
def ofLines? (lines : List TomlLine) : Option (Table Toml) := addLines? [] [] lines

end Toml

end TextTemplate
