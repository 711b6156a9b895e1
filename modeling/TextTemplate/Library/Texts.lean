import TextTemplate.Library.Comparison
import TextTemplate.Text.Case
import TextTemplate.Text.Search

/-!
# Text functions

They work on the renderings of their arguments. Positions and lengths count characters.
-/

namespace TextTemplate.Library

/-- A function of the rendering of one argument. -/
def onText (f : List Char → List Char) : Function := unary fun a => .ok (textValue (f a.render))

def concat : Function := fun args => .ok (textValue (args.flatMap Value.render))

def length : Function :=
  unary fun a =>
    .ok (countValue (match a with
      | .list items => items.length
      | .object fields => fields.length
      | a => a.render.length))

/-- The characters from `start` on, which is clamped to the text. -/
def substringFrom (text : List Char) (start : Int) : List Char := text.drop start.toNat

def substring : Function :=
  binaryOptional fun a b c =>
    match toInteger b with
    | .error f => .error f
    | .ok start =>
      match c with
      | .null => .ok (textValue (substringFrom a.render start))
      | c =>
        match toInteger c with
        | .error f => .error f
        | .ok length => .ok (textValue ((substringFrom a.render start).take length.toNat))

def replace : Function :=
  ternary fun a b c =>
    let search := b.render
    .ok (textValue
      (if search.isEmpty then a.render else Text.replace search c.render a.render))

def contains : Function :=
  binary fun a b =>
    .ok (.boolean (match a with
      | .list items => items.any fun item => valuesEqual item b
      | a => Text.occursIn b.render a.render))

def startsWith : Function := binary fun a b => .ok (.boolean (b.render.isPrefixOf a.render))

def endsWith : Function := binary fun a b => .ok (.boolean (b.render.isSuffixOf a.render))

def split : Function :=
  binary fun a b =>
    let separator := b.render
    let pieces := if separator.isEmpty then a.render.map ([·]) else Text.split separator a.render
    .ok (.list (pieces.map textValue))

def join : Function :=
  unaryOptional fun a b =>
    let separator := match b with
      | .null => [',']
      | b => b.render
    (toList a).map fun items => textValue (separator.intercalate (items.map Value.render))

/-- The widest padded text. -/
def padLimit : Int := 10000

/-- The first `count` characters of a text repeated without end. -/
def cycle (pad : List Char) (count : Nat) : List Char :=
  (List.range count).map fun i => pad.getD (i % pad.length) ' '

def padStart : Function :=
  binaryOptional fun a b c =>
    match toInteger b with
    | .error f => .error f
    | .ok width =>
      if padLimit < width then .error (.padTooWide width padLimit)
      else
        let text := a.render
        let pad := match c with
          | .null => [' ']
          | c => c.render
        .ok (textValue
          (if pad.isEmpty then text else cycle pad (width.toNat - text.length) ++ text))

def texts : List Builtin :=
  [⟨"concat", "concat(a, b, ...)", "Joins the string form of every argument", concat⟩,
   ⟨"upper", "upper(text)", "Converts text to upper case", onText Text.upper⟩,
   ⟨"lower", "lower(text)", "Converts text to lower case", onText Text.lower⟩,
   ⟨"trim", "trim(text)", "Removes leading and trailing whitespace", onText Text.trim⟩,
   ⟨"length", "length(value)", "Characters in a string, items in an array or keys in an object",
     length⟩,
   ⟨"substring", "substring(text, start, length?)",
     "Part of text from start, optionally limited to length characters", substring⟩,
   ⟨"replace", "replace(text, search, replacement)", "Replaces every occurrence of search",
     replace⟩,
   ⟨"contains", "contains(textOrArray, value)",
     "True when the string contains the substring, or the array the item", contains⟩,
   ⟨"startsWith", "startsWith(text, prefix)", "True when text starts with prefix", startsWith⟩,
   ⟨"endsWith", "endsWith(text, suffix)", "True when text ends with suffix", endsWith⟩,
   ⟨"split", "split(text, separator)",
     "Splits text into an array; an empty separator splits into characters", split⟩,
   ⟨"join", "join(array, separator?)", "Joins array items with separator (default \",\")",
     join⟩,
   ⟨"padStart", "padStart(text, width, pad?)",
     "Pads text on the left to width characters (default pad is a space)", padStart⟩]

end TextTemplate.Library
