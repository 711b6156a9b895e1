import TextTemplate.Value.Basic

/-!
# Templates

A template is literal text interleaved with expressions. Conditionals and comparisons are calls of
functions.
-/

namespace TextTemplate

/-- A piece of a template, and a node of an expression. -/
inductive Part
  /-- Literal text outside of every placeholder. -/
  | text (s : String)
  /-- A constant. -/
  | literal (v : Value)
  /-- A variable, by the text of its path. -/
  | variable (path : String)
  | call (function : String) (args : List Part)
  /-- The left side, or the right one where the left one is missing. -/
  | coalesce (left right : Part)
  /-- The renderings of the body, once for every element of the collection. -/
  | forEach (item : String) (index : Option String) (collection body : Part)

instance : Inhabited Part := ⟨.text ""⟩

/-- A template: its source text and its parts in order. -/
structure Template where
  raw : String
  parts : List Part

/-- A comparison operator. -/
inductive Comparison
  | eq
  | ne
  | lt
  | le
  | gt
  | ge
deriving DecidableEq

namespace Comparison

/-- The function that compares. -/
def function : Comparison → String
  | .eq => "eq"
  | .ne => "ne"
  | .lt => "lt"
  | .le => "lte"
  | .gt => "gt"
  | .ge => "gte"

def symbol : Comparison → String
  | .eq => "=="
  | .ne => "!="
  | .lt => "<"
  | .le => "<="
  | .gt => ">"
  | .ge => ">="

end Comparison

namespace Part

/-- A conditional is a call of `if`. -/
def ternary (condition yes no : Part) : Part := .call "if" [condition, yes, no]

/-- A comparison is a call of the function of its operator. -/
def compare (left : Part) (op : Comparison) (right : Part) : Part := .call op.function [left, right]

def isText : Part → Bool
  | .text _ => true
  | _ => false

mutual

/-- Structural equality, with numeric equality of the numbers in literals. -/
def same : Part → Part → Bool
  | .text a, .text b => a == b
  | .literal a, .literal b => a.same b
  | .variable a, .variable b => a == b
  | .call f as, .call g bs => f == g && sameAll as bs
  | .coalesce a b, .coalesce c d => a.same c && b.same d
  | .forEach i j a b, .forEach k l c d => i == k && j == l && a.same c && b.same d
  | _, _ => false

def sameAll : List Part → List Part → Bool
  | [], [] => true
  | a :: as, b :: bs => a.same b && sameAll as bs
  | _, _ => false

end

end Part

namespace Template

/-- The template that holds nothing but a text. -/
def ofText (s : String) : Template := ⟨s, if s.isEmpty then [] else [.text s]⟩

/-- Is every part text? -/
def isTextOnly (t : Template) : Bool := t.parts.all Part.isText

def same (a b : Template) : Bool := a.raw == b.raw && Part.sameAll a.parts b.parts

end Template

end TextTemplate
