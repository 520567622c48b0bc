import ModelVault.Toml.Number
import ModelVault.Toml.Timestamp

/-! The values of TOML: scalars, arrays, and tables written inline or by keys with points. -/

namespace ModelVault.Toml

/-- A value as it stands in the text. A table that keys with points have opened stays open for more such
keys, an inline table does not. -/
inductive Value where
  | scalar (value : Setting)
  | array (items : List Value)
  | inlineTable (members : List (String × Value))
  | openTable (members : List (String × Value))
  deriving Inhabited

abbrev Members := List (String × Value)

def distinct (names : List String) : Bool :=
  match names with
  | [] => true
  | name :: rest => !rest.contains name && distinct rest

mutual

/-- The setting of a value; no table may have two members of one name. -/
def Value.setting? : Value → Option Setting
  | .scalar value => some value
  | .array items => (itemSettings? items).map .list
  | .inlineTable members => (memberSettings? members).map .table
  | .openTable members => (memberSettings? members).map .table

private def itemSettings? : List Value → Option (List Setting)
  | [] => some []
  | item :: rest => do return (← item.setting?) :: (← itemSettings? rest)

/-- The settings of members of different names. -/
def memberSettings? : List (String × Value) → Option (List (String × Setting))
  | [] => some []
  | (name, value) :: rest => do
    let value ← value.setting?
    let rest ← memberSettings? rest
    if (rest.map (·.1)).contains name then none else return (name, value) :: rest

end

/-- Put a value under a key with points into a table. -/
def addMember? : List String → Value → Members → Option Members
  | [], _, _ => none
  | [name], value, members => some (members ++ [(name, value)])
  | name :: rest, value, members =>
    match members.find? (·.1 = name) with
    | none => (addMember? rest value []).map fun inner => members ++ [(name, .openTable inner)]
    | some (_, .openTable inner) =>
      (addMember? rest value inner).map fun inner => replaceFirst name (.openTable inner) members
    | some _ => none
where
  /-- Put a value in the place of the first one of a name. -/
  replaceFirst (name : String) (value : Value) : Members → Members
    | [] => []
    | (other, old) :: rest =>
      if other = name then (name, value) :: rest else (other, old) :: replaceFirst name value rest

/-- One name of a key: a bare word or a quoted text of one line. -/
def name? (text : List Char) : Option (String × List Char) :=
  match Token.next? text with
  | some (.bare word, rest) => some (String.ofList word, rest)
  | some (.quoted name false, rest) => some (name, rest)
  | _ => none

/-- The names of a key with points between them, and the text behind the blanks that follow. -/
def key? (bound : Nat) (text : List Char) : Option (List String × List Char) :=
  match bound with
  | 0 => none
  | bound + 1 => do
    let (name, rest) ← name? text
    let rest := skipBlanks rest
    match eat? .period rest with
    | some rest =>
      let (names, rest) ← key? bound (skipBlanks rest)
      return (name :: names, rest)
    | none => return ([name], rest)

private def word? (text : List Char) : Option (List Char) :=
  match Token.next? text with
  | some (.bare _, rest) => some rest
  | _ => none

/-- The text behind a date, from what follows its first word. A time may follow behind one blank. -/
private def behindDate? (colonEaten : Bool) (rest : List Char) : Option (List Char) := do
  let rest := match Token.next? rest with
    | some (.blank [' '], behind) => (word? behind).getD rest
    | _ => rest
  let minutes? := if colonEaten then some rest else eat? .colon rest
  match minutes? with
  | none => return rest
  | some rest =>
    let rest ← word? (← eat? .colon (← word? rest))
    let rest ← match eat? .period rest with
      | some rest => word? rest
      | none => some rest
    let rest ← match eat? .plus rest with
      | some rest => word? rest
      | none => some rest
    match eat? .colon rest with
    | some rest => word? rest
    | none => return rest

private def dated? (text rest : List Char) (colonEaten : Bool) : Option (Value × List Char) := do
  let behind ← behindDate? colonEaten rest
  let timestamp ← timestamp? (text.take (text.length - behind.length))
  return (.scalar (.text timestamp), behind)

private def holdsPair (first second : Char) : List Char → Bool
  | a :: b :: rest => (a = first && b = second) || holdsPair first second (b :: rest)
  | _ => false

/-- The number or the date that begins with a word at the front of a text. -/
private def numberOrDate? (word text rest : List Char) : Option (Value × List Char) :=
  let isDate := word.contains 'T' || word.contains 't' ||
    ((word.drop 1).contains '-' && !holdsPair 'e' '-' word && !holdsPair 'E' '-' word)
  if isDate then dated? text rest false
  else
    match eat? .colon rest with
    | some rest => dated? text rest true
    | none => (number? word rest).map fun (value, rest) => (.scalar value, rest)

private def startsNumber (word : List Char) : Bool :=
  word = "inf".toList || word = "nan".toList || word.head?.any fun c => c = '-' || Text.isDigit c

/-- The text behind blanks, comments and line ends. -/
private def skipLines : Nat → List Char → Option (List Char)
  | 0, text => some text
  | bound + 1, text =>
    let text := skipBlanks text
    match Token.next? text with
    | some (.newline, rest) => skipLines bound rest
    | some (.comment, _) => (comment? text).bind (skipLines bound)
    | _ => some text

mutual

/-- The value at the front of a text. Each step takes at least one character, which bounds their number. -/
def value? : Nat → List Char → Option (Value × List Char)
  | 0, _ => none
  | bound + 1, text =>
    match Token.next? text with
    | some (.quoted value _, rest) => some (.scalar (.text value), rest)
    | some (.bare word, rest) =>
      if word = "true".toList then some (.scalar (.flag true), rest)
      else if word = "false".toList then some (.scalar (.flag false), rest)
      else if startsNumber word then numberOrDate? word text rest
      else none
    | some (.plus, rest) =>
      match Token.next? rest with
      | some (.bare word, rest) => (number? word rest).map fun (value, rest) => (.scalar value, rest)
      | _ => none
    | some (.openBrace, rest) =>
      let rest := skipBlanks rest
      match eat? .closeBrace rest with
      | some rest => some (.inlineTable [], rest)
      | none => inlineMembers? bound [] rest
    | some (.openBracket, rest) => items? bound [] rest
    | _ => none

/-- The members of an inline table behind the ones that have been read. -/
def inlineMembers? : Nat → Members → List Char → Option (Value × List Char)
  | 0, _, _ => none
  | bound + 1, members, text => do
    let (names, rest) ← key? text.length text
    let (value, rest) ← value? bound (skipBlanks (← eat? .equals rest))
    let members ← addMember? names value members
    let rest := skipBlanks rest
    match eat? .closeBrace rest with
    | some rest => return (.inlineTable members, rest)
    | none => inlineMembers? bound members (skipBlanks (← eat? .comma rest))

/-- The items of an array behind the ones that have been read, which are in reverse. -/
def items? : Nat → List Value → List Char → Option (Value × List Char)
  | 0, _, _ => none
  | bound + 1, items, text => do
    let text ← skipLines text.length text
    match eat? .closeBracket text with
    | some rest => return (.array items.reverse, rest)
    | none =>
      let (item, rest) ← value? bound text
      let rest ← skipLines rest.length rest
      match eat? .comma rest with
      | some rest => items? bound (item :: items) rest
      | none => return (.array (item :: items).reverse, ← eat? .closeBracket rest)

end

end ModelVault.Toml
