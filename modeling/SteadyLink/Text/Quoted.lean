import SteadyLink.Text.Printable

/-!
# Quoted texts

Texts as they appear inside messages: between double quotes, on one line, with every character
that could not be seen written by its code point.
-/

namespace SteadyLink.Text

/-- Hexadecimal digits of `n` in lower case, without leading zeros. -/
def hexDigits (n : Nat) : String := String.ofList (Nat.toDigits 16 n)

/-- One character of a quoted text. Marks are written by code point even where they have a glyph,
since they would be drawn onto the character before them. -/
def quoteChar (c : Char) : String :=
  if c = '\x00' then "\\0"
  else if c = '\t' then "\\t"
  else if c = '\r' then "\\r"
  else if c = '\n' then "\\n"
  else if c = '"' then "\\\""
  else if c = '\\' then "\\\\"
  else if isExtending c || !isPrintable c then "\\u\x7b" ++ hexDigits c.toNat ++ "\x7d"
  else c.toString

def quoted (s : String) : String :=
  "\"" ++ String.join (s.toList.map quoteChar) ++ "\""

end SteadyLink.Text
