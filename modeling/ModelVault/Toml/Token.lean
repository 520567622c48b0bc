import ModelVault.Json.Literal

/-! The tokens of TOML documents, whose line ends are single line feeds. -/

namespace ModelVault.Toml

/-- A token. Blanks keep their text, bare words and quoted texts what they say. -/
inductive Token where
  | finish
  | newline
  | blank (text : List Char)
  | comment
  | equals
  | period
  | comma
  | colon
  | plus
  | openBrace
  | closeBrace
  | openBracket
  | closeBracket
  | bare (word : List Char)
  | quoted (text : String) (multiline : Bool)
  deriving DecidableEq

/-- A character of bare keys, of numbers and of dates. -/
def isBareChar (c : Char) : Bool :=
  c.isAlphanum || c = '-' || c = '_'

/-- A blank within a line. -/
def isBlank (c : Char) : Bool :=
  c = ' ' || c = '\t'

/-- A character that comments may hold. -/
def isCommentChar (c : Char) : Bool :=
  c = '\t' || ' ' ≤ c

/-- A character that quoted texts may hold without an escape. -/
def isTextChar (c : Char) : Bool :=
  isCommentChar c && c ≠ '\x7f'

/-- Line ends as single line feeds. -/
def foldLineEnds : List Char → List Char
  | '\r' :: '\n' :: rest => '\n' :: foldLineEnds rest
  | c :: rest => c :: foldLineEnds rest
  | [] => []

private def shortEscape? (c : Char) : Option Char :=
  if c = '/' then none else Json.shortEscape? c

/-- The character of a number of hexadecimal digits, if it is one. -/
def hexEscape? (digits : List Char) : Option Char := do
  let value := (← digits.mapM Text.hexValue?).foldl (fun value digit => 16 * value + digit) 0
  if value < 0xd800 ∨ (0xdfff < value ∧ value < 0x110000) then some (Char.ofNat value) else none

/-- Skip a line end behind a backslash, the blanks before it, and all blanks and line ends behind it. -/
def skipLineEnd? (text : List Char) : Option (List Char) :=
  match text.dropWhile isBlank with
  | [] => some []
  | '\n' :: rest => some (rest.dropWhile fun c => isBlank c || c = '\n')
  | _ => none

/-- What an escape stands for, and the text behind it. -/
def escape? (multiline : Bool) : List Char → Option (List Char × List Char)
  | [] => none
  | 'u' :: rest =>
    if rest.length < 4 then none
    else (hexEscape? (rest.take 4)).map fun c => ([c], rest.drop 4)
  | 'U' :: rest =>
    if rest.length < 8 then none
    else (hexEscape? (rest.take 8)).map fun c => ([c], rest.drop 8)
  | c :: rest =>
    if multiline && (isBlank c || c = '\n') then (skipLineEnd? (c :: rest)).map ([], ·)
    else (shortEscape? c).map fun c => ([c], rest)

/-- Read on in a text that its quote ends, with the characters read so far in reverse. Double quotes
know escapes. A text of several lines ends with three quotes, behind at most two that belong to it. -/
def readText (quote : Char) (multiline : Bool) : Nat → List Char → List Char → Option (String × List Char)
  | _, _, [] => none
  | 0, _, _ => none
  | bound + 1, read, c :: rest =>
    if c = quote then
      if multiline then
        let quotes := min 5 ((c :: rest).takeWhile (· = quote)).length
        let kept := if quotes < 3 then quotes else quotes - 3
        let read := List.replicate kept quote ++ read
        let rest := (c :: rest).drop quotes
        if quotes < 3 then readText quote multiline bound read rest
        else some (String.ofList read.reverse, rest)
      else some (String.ofList read.reverse, rest)
    else if c = '\n' then
      if multiline then readText quote multiline bound ('\n' :: read) rest else none
    else if c = '\\' ∧ quote = '"' then
      match escape? multiline rest with
      | some (chars, rest) => readText quote multiline bound (chars ++ read) rest
      | none => none
    else if isTextChar c then readText quote multiline bound (c :: read) rest
    else none

/-- The quoted text behind its first quote. -/
def quotedToken? (quote : Char) (text : List Char) : Option (Token × List Char) :=
  match text with
  | c :: rest =>
    if c ≠ quote then
      (readText quote false text.length [] text).map fun (value, rest) => (.quoted value false, rest)
    else if rest.head? = some quote then
      let body := match rest.drop 1 with
        | '\n' :: body => body
        | body => body
      (readText quote true body.length [] body).map fun (value, rest) => (.quoted value true, rest)
    else some (.quoted "" false, rest)
  | [] => none

/-- The first token of a text and what is behind it. -/
def Token.next? : List Char → Option (Token × List Char)
  | [] => some (.finish, [])
  | c :: rest =>
    if c = '\n' then some (.newline, rest)
    else if isBlank c then
      some (.blank (c :: rest.takeWhile isBlank), rest.dropWhile isBlank)
    else if c = '#' then some (.comment, rest.dropWhile isCommentChar)
    else if c = '=' then some (.equals, rest)
    else if c = '.' then some (.period, rest)
    else if c = ',' then some (.comma, rest)
    else if c = ':' then some (.colon, rest)
    else if c = '+' then some (.plus, rest)
    else if c = '\x7b' then some (.openBrace, rest)
    else if c = '\x7d' then some (.closeBrace, rest)
    else if c = '[' then some (.openBracket, rest)
    else if c = ']' then some (.closeBracket, rest)
    else if c = '"' ∨ c = '\'' then quotedToken? c rest
    else if isBareChar c then some (.bare (c :: rest.takeWhile isBareChar), rest.dropWhile isBareChar)
    else none

/-- The text behind a token, if the text begins with it. -/
def eat? (token : Token) (text : List Char) : Option (List Char) :=
  match Token.next? text with
  | some (found, rest) => if found = token then some rest else none
  | none => none

def skipBlanks (text : List Char) : List Char :=
  text.dropWhile isBlank

/-- The text behind the end of its line, or the end of the text. -/
def lineEnd? (text : List Char) : Option (List Char) :=
  match Token.next? text with
  | some (.newline, rest) => some rest
  | some (.finish, rest) => some rest
  | _ => none

/-- The text behind a comment and the end of its line, if the text begins with a comment. -/
def comment? (text : List Char) : Option (List Char) :=
  match Token.next? text with
  | some (.comment, rest) => lineEnd? rest
  | _ => none

end ModelVault.Toml
