import RouteTemplate.Text.Digits
import RouteTemplate.Unicode.Property

/-!
Text in quotation marks, on one line and printable: other characters are written as escapes.
-/

namespace RouteTemplate.Text

/-- A character by its code point. -/
def codeEscape (c : Char) : List Char := "\\u\x7b".toList ++ hexDigits c.toNat ++ ['}']

/-- A character between quotation marks. What would not show by itself is written by its code
point. -/
def escape (c : Char) : List Char :=
  if c = '\x00' then ['\\', '0']
  else if c = '\t' then ['\\', 't']
  else if c = '\r' then ['\\', 'r']
  else if c = '\n' then ['\\', 'n']
  else if c = '\\' || c = '"' then ['\\', c]
  else if Unicode.isHidden c || !Unicode.isPrintable c then codeEscape c
  else [c]

/-- A text in quotation marks. -/
def quote (s : List Char) : List Char := '"' :: s.flatMap escape ++ ['"']

end RouteTemplate.Text
