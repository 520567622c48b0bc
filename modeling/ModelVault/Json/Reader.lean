import ModelVault.Json.Value

/-! The reader of JSON documents. -/

namespace ModelVault.Json

/-- Blanks between tokens. -/
def isBlank (c : Char) : Bool :=
  c = ' ' || c = '\t' || c = '\n' || c = '\r'

/-- The text behind its leading blanks. -/
def skipBlanks (text : List Char) : List Char :=
  text.dropWhile isBlank

private def takeDigits (text : List Char) : List Char × List Char :=
  (text.takeWhile Text.isDigit, text.dropWhile Text.isDigit)

private def fraction? (text : List Char) : Option (List Char × List Char) :=
  match text with
  | '.' :: rest =>
    let (digits, rest) := takeDigits rest
    if digits.isEmpty then none else some ('.' :: digits, rest)
  | _ => some ([], text)

private def exponent? (text : List Char) : Option (List Char × List Char) :=
  match text with
  | mark :: rest =>
    if mark = 'e' ∨ mark = 'E' then
      let (sign, rest) := match rest with
        | '+' :: rest => (['+'], rest)
        | '-' :: rest => (['-'], rest)
        | _ => ([], rest)
      let (digits, rest) := takeDigits rest
      if digits.isEmpty then none else some (mark :: sign ++ digits, rest)
    else some ([], text)
  | [] => some ([], [])

/-- A number without leading zeros. Whole numbers from -2^63 to 2^64-1 are integers, but for a
negative zero. -/
def readNumber (text : List Char) : Option (Json × List Char) := do
  let (sign, text) := match text with
    | '-' :: rest => (['-'], rest)
    | _ => ([], text)
  let (digits, text) := takeDigits text
  if digits.isEmpty ∨ (digits.head? = some '0' ∧ 1 < digits.length) then none
  let (fraction, text) ← fraction? text
  let (exponent, text) ← exponent? text
  let magnitude := Text.ofDigits digits
  let negative := !sign.isEmpty
  let whole := fraction.isEmpty && exponent.isEmpty
  if whole ∧ !negative ∧ magnitude < UInt64.size then return (.integer magnitude, text)
  if whole ∧ negative ∧ 0 < magnitude ∧ magnitude ≤ 9223372036854775808 then return (.integer (-magnitude), text)
  return (.decimal (String.ofList (sign ++ digits ++ fraction ++ exponent)), text)

mutual

/-- Read one value from the front; each level of the text takes at most two units of the bound. -/
def readValue : Nat → List Char → Option (Json × List Char)
  | 0, _ => none
  | bound + 1, text =>
    match skipBlanks text with
    | '\x7b' :: rest =>
      match skipBlanks rest with
      | '\x7d' :: rest => some (.object [], rest)
      | _ => readMembers bound [] rest
    | '[' :: rest =>
      match skipBlanks rest with
      | ']' :: rest => some (.array [], rest)
      | _ => readItems bound [] rest
    | '"' :: rest => (readLiteral [] rest).map fun (text, rest) => (.string text, rest)
    | 'n' :: 'u' :: 'l' :: 'l' :: rest => some (.null, rest)
    | 't' :: 'r' :: 'u' :: 'e' :: rest => some (.bool true, rest)
    | 'f' :: 'a' :: 'l' :: 's' :: 'e' :: rest => some (.bool false, rest)
    | rest => readNumber rest

/-- Read the items of an array behind those read so far, which come in reverse. -/
def readItems : Nat → List Json → List Char → Option (Json × List Char)
  | 0, _, _ => none
  | bound + 1, items, text =>
    match readValue bound text with
    | none => none
    | some (item, rest) =>
      match skipBlanks rest with
      | ',' :: rest => readItems bound (item :: items) rest
      | ']' :: rest => some (.array (item :: items).reverse, rest)
      | _ => none

/-- Read the members of an object behind those read so far, which come in reverse. -/
def readMembers : Nat → List (String × Json) → List Char → Option (Json × List Char)
  | 0, _, _ => none
  | bound + 1, members, text =>
    match skipBlanks text with
    | '"' :: rest =>
      match readLiteral [] rest with
      | none => none
      | some (name, rest) =>
        match skipBlanks rest with
        | ':' :: rest =>
          match readValue bound rest with
          | none => none
          | some (value, rest) =>
            match skipBlanks rest with
            | ',' :: rest => readMembers bound ((name, value) :: members) rest
            | '\x7d' :: rest => some (.object ((name, value) :: members).reverse, rest)
            | _ => none
        | _ => none
    | _ => none

end

/-- The value that a whole document writes. -/
def read? (document : String) : Option Json :=
  match readValue (2 * document.length + 2) document.toList with
  | some (value, rest) => if rest.all isBlank then some value else none
  | none => none

end ModelVault.Json
