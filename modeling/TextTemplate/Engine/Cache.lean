import TextTemplate.Template.Reader
import TextTemplate.Table

/-!
# Caches of templates

A cache keeps every template it has read, by its source, until it is cleared. Templates that are
kept are told apart by serial numbers, so that what is found again can be seen to be the same one.
-/

namespace TextTemplate

/-- A template that a cache keeps or has kept. -/
structure KeptTemplate where
  /-- No other template of the cache has this number, not even a cleared one. -/
  serial : Nat
  template : Template

structure Cache where
  entries : Table KeptTemplate
  /-- The serial number of the next template. -/
  next : Nat

namespace Cache

def empty : Cache := ⟨[], 0⟩

/-- The number of templates that are kept. -/
def size (c : Cache) : Nat := c.entries.length

/-- The template that is kept under a source. -/
def get? (c : Cache) (raw : String) : Option KeptTemplate := c.entries.get? raw

/-- The template of a source: the one that is kept, or else one that is read and kept. What cannot
be read is not kept. -/
def parse (c : Cache) (raw : String) : Except SyntaxError KeptTemplate × Cache :=
  match c.get? raw with
  | some kept => (.ok kept, c)
  | none =>
    match Template.parse raw with
    | .error e => (.error e, c)
    | .ok template =>
      let kept := ⟨c.next, template⟩
      (.ok kept, ⟨c.entries.put raw kept, c.next + 1⟩)

/-- Forgets all templates. -/
def clear (c : Cache) : Cache := { c with entries := [] }

end Cache

end TextTemplate
