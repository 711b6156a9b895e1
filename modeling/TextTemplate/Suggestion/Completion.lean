import TextTemplate.Suggestion.Alignment
import TextTemplate.Suggestion.Listing
import TextTemplate.Text.Letter
import TextTemplate.Text.Search

/-!
# Completions of an expression

What is typed so far narrows the suggestions.

* Inside a call that is still open, the current argument is completed, with variables only.
* After a point, the children of an object are given, or the first item of a list.
* Otherwise the suggestions are given that start with what is typed, in order of rank, or else
  those that align with it.
-/

namespace TextTemplate.Suggestion

/-! ## The argument of an open call -/

/-- Where a text stands while it is searched for open calls. -/
structure CallScan where
  /-- The number of open parentheses. -/
  depth : Nat
  quote : Option Char
  /-- The current argument so far, in reverse, if there is one. -/
  argument : Option (List Char)

namespace CallScan

/-- Adds a character to the current argument. -/
def keep (c : Char) (s : CallScan) : CallScan := { s with argument := s.argument.map (c :: ·) }

/-- Passes one character. -/
def step (s : CallScan) (c : Char) : CallScan :=
  match s.quote with
  | some quote => { s.keep c with quote := if c = quote then none else some quote }
  | none =>
    if c = '\'' ∨ c = '"' then { s.keep c with quote := some c }
    else if c = '(' then { s with depth := s.depth + 1, argument := some [] }
    else if c = ')' then { s with depth := s.depth - 1, argument := none }
    else if c = ',' ∧ 0 < s.depth then { s with argument := some [] }
    else s.keep c

end CallScan

/-- The argument being typed, if a call is still open. -/
def openArgument? (text : List Char) : Option (List Char) :=
  let s := text.foldl CallScan.step ⟨0, none, none⟩
  if s.depth = 0 then none else s.argument.map fun argument => Text.trim argument.reverse

/-! ## Children -/

/-- Is the expression one key below the parent? -/
def isChildOf (parent expression : List Char) : Bool :=
  match Text.afterStart? parent expression with
  | some ('.' :: key) => !key.isEmpty && key.all fun c => c != '.' && c != '['
  | _ => false

/-- The suggestions one key below a parent. -/
def childrenOf (all : List Suggestion) (parent : List Char) : List Suggestion :=
  all.filter fun s => isChildOf parent s.expression.toList

/-- The list of an indexed expression `list[12]`. -/
def indexedList? (text : List Char) : Option (List Char) :=
  match text.reverse with
  | ']' :: rest =>
    let digits := rest.takeWhile Text.isDecimalDigit
    match rest.dropWhile Text.isDecimalDigit with
    | '[' :: list =>
      if digits ≠ [] ∧ list ≠ [] ∧ ¬list.contains '\n' then some list.reverse else none
    | _ => none
  | _ => none

/-- The children of what stands in front of a point. Those of an item of a list are the ones of its
first item, under the index that was typed. -/
def childrenAfterPoint (all : List Suggestion) (parent : List Char) : List Suggestion :=
  match indexedList? parent with
  | some list =>
    let first := list ++ "[0]".toList
    (childrenOf all first).map fun s =>
      { s with expression := String.ofList (parent ++ s.expression.toList.drop first.length) }
  | none =>
    match all.find? fun s => !s.isFunction && s.expression.toList == parent with
    | none => []
    | some s =>
      match s.list with
      | some l => all.filter fun other => other.expression == l.firstItem
      | none => childrenOf all parent

/-! ## Starts and alignments -/

/-- Does the first suggestion rank before the second? An exact match comes first, then what is less
deep, then variables before functions, then the alphabet. -/
def ranksBefore (fragment : String) (a b : Suggestion) : Bool :=
  if (a.expression == fragment) != (b.expression == fragment) then a.expression == fragment
  else if a.depth != b.depth then a.depth < b.depth
  else if a.isFunction != b.isFunction then b.isFunction
  else a.expression < b.expression

/-- The suggestions that align with a fragment, best first. -/
def aligned (all : List Suggestion) (fragment : String) : List Suggestion :=
  let scored := Alignment.scores (fun s => s.expression.toList) fragment.toList [] all
  let before := fun (a b : Suggestion × Int) =>
    if a.2 = b.2 then !(b.1.expression < a.1.expression) else b.2 < a.2
  (scored.mergeSort before).map Prod.fst

/-- The suggestions that start with a fragment, by rank. -/
def starting (all : List Suggestion) (fragment : String) : List Suggestion :=
  let found := all.filter fun s => fragment.toList.isPrefixOf s.expression.toList
  found.mergeSort fun a b => !ranksBefore fragment b a

/-- The suggestions for a fragment that is no call. -/
def forFragment (settings : SuggestionSettings) (all : List Suggestion) (fragment : List Char) :
    List Suggestion :=
  match fragment.reverse with
  | '.' :: parent => childrenAfterPoint all parent.reverse
  | _ =>
    let fragment := String.ofList fragment
    match starting all fragment with
    | [] => if settings.fuzzy && !fragment.isEmpty then aligned all fragment else []
    | found => found

/-- What is typed, without leading blanks and the opening of a placeholder. -/
def typed (partialText : String) : List Char :=
  let text := Text.trimStart partialText.toList
  (Text.afterStart? ['$', '{'] text).getD text

/-- The completions of what is typed so far. -/
def complete (settings : SuggestionSettings) (all : List Suggestion) (partialText : String) :
    List Suggestion :=
  let text := typed partialText
  let found := match openArgument? text with
    | some argument =>
      let named := all.filter fun s => !s.isFunction
      if argument = [] then named else forFragment settings named argument
    | none => forFragment settings all (Text.trim text)
  match settings.limit with
  | some limit => found.take limit
  | none => found

end TextTemplate.Suggestion
