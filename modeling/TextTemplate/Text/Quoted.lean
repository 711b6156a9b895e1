import TextTemplate.Text.Visible

/-!
# Quoted text

A text in double quotes, with escapes for quotes, backslashes, line breaks and every character
that is not shown as it is.
-/

namespace TextTemplate.Text

/-- The escape of a character by its code point. -/
def codePointEscape (c : Char) : List Char :=
  "\\u\x7b".toList ++ Nat.toDigits 16 c.toNat ++ "\x7d".toList

/-- A character inside double quotes. -/
def quotedChar (c : Char) : List Char :=
  match c with
  | '\x00' => "\\0".toList
  | '\t' => "\\t".toList
  | '\r' => "\\r".toList
  | '\n' => "\\n".toList
  | '"' => "\\\"".toList
  | '\\' => "\\\\".toList
  | c => if isVisible c then [c] else codePointEscape c

/-- A text in double quotes. -/
def quoted (text : List Char) : List Char := '"' :: text.flatMap quotedChar ++ ['"']

end TextTemplate.Text
