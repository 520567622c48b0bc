import ModelVault.Text.Extender
import ModelVault.Text.Hexadecimal

/-!
Quoted text, the form in which messages show identifiers and other foreign text: double quotes
around it, and an escape for each character a reader could not see or could misread.
-/

namespace ModelVault.Text

private def codePoint (c : Char) : String :=
  "\\u\x7b" ++ hexNumeral c.toNat ++ "\x7d"

/-- How one character stands inside the quotes. -/
def escaped (c : Char) : String :=
  if c = '\x00' then "\\0"
  else if c = '\t' then "\\t"
  else if c = '\r' then "\\r"
  else if c = '\n' then "\\n"
  else if c = '"' then "\\\""
  else if c = '\\' then "\\\\"
  else if ' ' ≤ c ∧ c ≤ '~' then c.toString
  else if isExtender c || isUnprintable c then codePoint c
  else c.toString

/-- The text between double quotes, with its escapes. -/
def quoted (text : String) : String :=
  "\"" ++ String.join (text.toList.map escaped) ++ "\""

/-- Quoted texts between square brackets. -/
def quotedList (texts : List String) : String :=
  "[" ++ ", ".intercalate (texts.map quoted) ++ "]"

/-- Pairs of quoted texts between square brackets, each pair in parentheses. -/
def quotedPairs (pairs : List (String × String)) : String :=
  "[" ++ ", ".intercalate (pairs.map fun (key, value) =>
    "(" ++ quoted key ++ ", " ++ quoted value ++ ")") ++ "]"

end ModelVault.Text
