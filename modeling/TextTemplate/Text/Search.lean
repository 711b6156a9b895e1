/-!
# Searching texts

Occurrences of a text that is not empty are found from left to right without overlap. Each scan
counts the characters of the current occurrence that are still to be passed over.
-/

namespace TextTemplate.Text

/-- What follows a prefix, if the text starts with it. -/
def afterStart? : List Char → List Char → Option (List Char)
  | [], text => some text
  | _ :: _, [] => none
  | p :: start, c :: text => if p = c then afterStart? start text else none

/-- Does the part occur somewhere in the text? -/
def occursIn (part : List Char) : List Char → Bool
  | [] => part.isEmpty
  | c :: rest => part.isPrefixOf (c :: rest) || occursIn part rest

/-- The pieces between the occurrences of a separator, `skip` characters of one being left. -/
def splitFrom (separator : List Char) (skip : Nat) : List Char → List (List Char)
  | [] => [[]]
  | c :: rest =>
    match skip with
    | skip + 1 => splitFrom separator skip rest
    | 0 =>
      if separator.isPrefixOf (c :: rest) then
        [] :: splitFrom separator (separator.length - 1) rest
      else
        match splitFrom separator 0 rest with
        | piece :: more => (c :: piece) :: more
        | [] => [[c]]

/-- The pieces between the occurrences of a separator that is not empty. -/
def split (separator text : List Char) : List (List Char) := splitFrom separator 0 text

/-- Replaces occurrences, `skip` characters of one being left. -/
def replaceFrom (search replacement : List Char) (skip : Nat) : List Char → List Char
  | [] => []
  | c :: rest =>
    match skip with
    | skip + 1 => replaceFrom search replacement skip rest
    | 0 =>
      if search.isPrefixOf (c :: rest) then
        replacement ++ replaceFrom search replacement (search.length - 1) rest
      else c :: replaceFrom search replacement 0 rest

/-- Replaces every occurrence of a text that is not empty. -/
def replace (search replacement text : List Char) : List Char :=
  replaceFrom search replacement 0 text

end TextTemplate.Text
