import ModelVault.Json.Literal

/-! JSON values, their compact text and their indented text. -/

namespace ModelVault

/-- A JSON value. Numbers that no 64-bit integer holds keep the text they were written with. -/
inductive Json where
  | null
  | bool (value : Bool)
  | integer (value : Int)
  | decimal (source : String)
  | string (value : String)
  | array (items : List Json)
  | object (members : List (String × Json))
  deriving Inhabited

namespace Json

/-- The value of a member; of two members with one name the last counts. -/
def member? (value : Json) (name : String) : Option Json :=
  match value with
  | object members => (members.reverse.find? (·.1 == name)).map (·.2)
  | _ => none

/-- The characters of a value that holds no others. -/
def scalarChars : Json → List Char
  | bool value => (if value then "true" else "false").toList
  | integer value => (toString value).toList
  | decimal source => source.toList
  | string value => literalChars value
  | _ => "null".toList

mutual

/-- The characters without any blank. -/
def compactChars : Json → List Char
  | array items => '[' :: compactItems items ++ [']']
  | object members => '\x7b' :: compactMembers members ++ ['\x7d']
  | value => value.scalarChars

/-- The characters of an array's items, commas between them. -/
def compactItems : List Json → List Char
  | [] => []
  | [item] => item.compactChars
  | item :: rest => item.compactChars ++ ',' :: compactItems rest

/-- The characters of an object's members, commas between them. -/
def compactMembers : List (String × Json) → List Char
  | [] => []
  | [(name, value)] => literalChars name ++ ':' :: value.compactChars
  | (name, value) :: rest => literalChars name ++ ':' :: value.compactChars ++ ',' :: compactMembers rest

end

def compact (value : Json) : String :=
  String.ofList value.compactChars

mutual

/-- The same value with the members of all objects in the order of their names. -/
def sorted : Json → Json
  | array items => array (sortedItems items)
  | object members => object ((sortedMembers members).mergeSort fun first second => first.1 ≤ second.1)
  | value => value

private def sortedItems : List Json → List Json
  | [] => []
  | item :: rest => item.sorted :: sortedItems rest

private def sortedMembers : List (String × Json) → List (String × Json)
  | [] => []
  | (name, value) :: rest => (name, value.sorted) :: sortedMembers rest

end

private def indentation (depth : Nat) : List Char :=
  '\n' :: List.replicate (2 * depth) ' '

mutual

/-- The characters with each item and member on a line of its own, two blanks deeper than what holds it. -/
def indentedChars (depth : Nat) : Json → List Char
  | array [] => ['[', ']']
  | object [] => ['\x7b', '\x7d']
  | array items => '[' :: indentedItems (depth + 1) items ++ indentation depth ++ [']']
  | object members => '\x7b' :: indentedMembers (depth + 1) members ++ indentation depth ++ ['\x7d']
  | value => value.scalarChars

private def indentedItems (depth : Nat) : List Json → List Char
  | [] => []
  | [item] => indentation depth ++ item.indentedChars depth
  | item :: rest => indentation depth ++ item.indentedChars depth ++ ',' :: indentedItems depth rest

private def indentedMembers (depth : Nat) : List (String × Json) → List Char
  | [] => []
  | [(name, value)] => indentation depth ++ literalChars name ++ ':' :: ' ' :: value.indentedChars depth
  | (name, value) :: rest =>
    indentation depth ++ literalChars name ++ ':' :: ' ' :: value.indentedChars depth ++
      ',' :: indentedMembers depth rest

end

/-- The indented text of a whole document. -/
def pretty (value : Json) : String :=
  String.ofList (value.indentedChars 0)

end Json

end ModelVault
