import TextTemplate.Suggestion.Basic

/-!
# Previews of values

A preview cuts long texts and large objects, at every depth, and marks where it has cut.
-/

namespace TextTemplate

/-- The mark at the end of a cut text, and the name of the field that stands for hidden ones. -/
def cutMark : String := "..."

/-- At most so many characters, and a mark if there are more. -/
def cutText (most : Nat) (s : String) : String :=
  if most < s.toList.length then String.ofList (s.toList.take most ++ cutMark.toList) else s

namespace Value

mutual

/-- A value with its texts and objects cut to the limits of the settings. -/
def preview (settings : SuggestionSettings) : Value → Value
  | .text s => .text (cutText settings.sampleChars s)
  | .list items => .list (previewItems settings items)
  | .object fields =>
    let shown := previewFields settings settings.sampleKeys fields
    if settings.sampleKeys < fields.length then
      let hidden := toString (fields.length - settings.sampleKeys) ++ " more"
      .object (Table.put shown cutMark (.text hidden))
    else .object shown
  | v => v

def previewItems (settings : SuggestionSettings) : List Value → List Value
  | [] => []
  | item :: rest => item.preview settings :: previewItems settings rest

/-- The previews of the first so many fields. -/
def previewFields (settings : SuggestionSettings) : Nat → List (String × Value) → Fields
  | 0, _ => []
  | _ + 1, [] => []
  | most + 1, (name, v) :: rest => (name, v.preview settings) :: previewFields settings most rest

end

end Value

end TextTemplate
