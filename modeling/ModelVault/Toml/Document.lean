import ModelVault.Toml.Value

/-!
TOML documents: sections under headers, and the tree of tables and lists that they make. Each table
has its header at most once, and a header does not reach into tables that are values.
-/

namespace ModelVault.Toml

/-- The entries under a header, or before all headers under an empty one. The header of an array opens
a new item. -/
structure Section where
  opensItem : Bool
  header : List String
  members : Members

/-- The header that a line begins with, up to and with the end of the line. -/
def header? (text : List Char) : Option (Section × List Char) := do
  let text ← eat? .openBracket text
  let (opensItem, text) := match eat? .openBracket text with
    | some text => (true, text)
    | none => (false, text)
  let (header, text) ← key? text.length (skipBlanks text)
  let text ← eat? .closeBracket text
  let text := skipBlanks (← if opensItem then eat? .closeBracket text else some text)
  let text ← (comment? text).or (lineEnd? text)
  return (⟨opensItem, header, []⟩, text)

/-- The key and the value that a line begins with, up to and with the end of the line. -/
def entry? (text : List Char) : Option (List String × Value × List Char) := do
  let (names, rest) ← key? text.length text
  let rest := skipBlanks (← eat? .equals rest)
  let (value, rest) ← value? (2 * rest.length + 2) rest
  let rest := skipBlanks rest
  return (names, value, ← (comment? rest).or (lineEnd? rest))

/-- The sections of a text behind the one that is being read. Each step takes at least one character. -/
def sections? : Nat → Section → List Char → Option (List Section)
  | 0, current, _ => some [current]
  | bound + 1, current, text =>
    let text := skipBlanks text
    match Token.next? text with
    | some (.finish, _) => some [current]
    | some (.newline, rest) => sections? bound current rest
    | some (.comment, _) => (comment? text).bind (sections? bound current)
    | some (.openBracket, _) => do
      let (next, rest) ← header? text
      return current :: (← sections? bound next rest)
    | some _ => do
      let (names, value, rest) ← entry? text
      sections? bound { current with members := ← addMember? names value current.members } rest
    | none => none

/-- The names that headers go on with, each once. -/
private def firstNames (sections : List Section) : List String :=
  sections.foldl (fun names piece =>
    match piece.header.head? with
    | some name => if names.contains name then names else names ++ [name]
    | none => names) []

/-- The sections whose headers go on with a name, without it. -/
private def below (name : String) (sections : List Section) : List Section :=
  sections.filterMap fun piece =>
    match piece.header with
    | head :: rest => if head = name then some { piece with header := rest } else none
    | [] => none

/-- The sections of each item of an array: an item goes from the header that opens it up to the next. -/
private def splitItems : List Section → List (List Section)
  | [] => []
  | piece :: rest =>
    let piece := if piece.header.isEmpty then { piece with opensItem := false } else piece
    match splitItems rest with
    | [] => [[piece]]
    | item :: others => if startsItem rest then [piece] :: item :: others else (piece :: item) :: others
where
  /-- The next section opens an item. -/
  startsItem : List Section → Bool
    | [] => false
    | piece :: _ => piece.header.isEmpty && piece.opensItem

/-- The table that sections make. Headers get shorter from level to level, which bounds the depth. -/
def assemble? : Nat → List Section → Option (List (String × Setting))
  | 0, _ => none
  | depth + 1, sections => do
    let own ← match sections.filter (·.header.isEmpty) with
      | [] => some []
      | [piece] => if piece.opensItem then none else memberSettings? piece.members
      | _ => none
    let names := firstNames sections
    if !distinct (own.map (·.1) ++ names) then none
    let children ← names.mapM fun name => do
      let inner := below name sections
      if splitItems.startsItem inner then
        let items ← (splitItems inner).mapM (assemble? depth)
        return (name, Setting.list (items.map .table))
      else return (name, Setting.table (← assemble? depth inner))
    return own ++ children

/-- The members of the table that a document writes. A byte order mark may precede it. -/
def read? (document : String) : Option (List (String × Setting)) := do
  let text := foldLineEnds document.toList
  let text := match text with
    | '\ufeff' :: rest => rest
    | _ => text
  let sections ← sections? (text.length + 1) ⟨false, [], []⟩ text
  assemble? (sections.foldl (fun depth piece => max depth piece.header.length) 0 + 1) sections

end ModelVault.Toml
