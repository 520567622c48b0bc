import ModelVault.Number.Binary64

/-!
Untyped settings as files and environments give them: trees of tables and lists, and what happens to
a tree when another source writes into it.
-/

namespace ModelVault

/-- A value that a source gives. -/
inductive Setting where
  | absent
  | flag (value : Bool)
  | integer (value : Int)
  | decimal (value : Binary64)
  | text (value : String)
  | list (items : List Setting)
  | table (members : List (String × Setting))
  deriving Inhabited

/-- One step down a tree: to a member, or to an item counted from the front or, negative, from the end. -/
inductive SettingStep where
  | member (name : String)
  | item (position : Int)
  deriving DecidableEq

namespace Setting

/-- The value of a name in a table's members. -/
def lookup? (name : String) : List (String × Setting) → Option Setting
  | [] => none
  | (other, value) :: rest => if other = name then some value else lookup? name rest

/-- Put a value under a name, in the place of the one that was there or behind all others. -/
def put (name : String) (value : Setting) : List (String × Setting) → List (String × Setting)
  | [] => [(name, value)]
  | (other, old) :: rest =>
    if other = name then (name, value) :: rest else (other, old) :: put name value rest

/-- The members of a table; anything else has none. -/
def members : Setting → List (String × Setting)
  | table members => members
  | _ => []

/-- The items of a list; anything else has none. -/
def items : Setting → List Setting
  | list items => items
  | _ => []

/-- The value of a member, absent if there is none. -/
def member (name : String) (setting : Setting) : Setting :=
  (lookup? name setting.members).getD absent

mutual

/-- Write a value over another. A table is written member by member into what is there and leaves its
other members alone; an empty one leaves everything alone. -/
def overwrite (old : Setting) : Setting → Setting
  | table [] =>
    match old with
    | absent => table []
    | _ => old
  | table (first :: rest) => table (overwriteMembers old.members (first :: rest))
  | value => value

/-- Write members over others, one after the other. -/
def overwriteMembers (old : List (String × Setting)) :
    List (String × Setting) → List (String × Setting)
  | [] => old
  | (name, value) :: rest =>
    overwriteMembers (put name (((lookup? name old).getD absent).overwrite value) old) rest

end

/-- The place of an item in a list of a length, or none before its front. -/
def place? (position : Int) (length : Nat) : Option Nat :=
  if 0 ≤ position then some position.toNat
  else if position.natAbs ≤ length then some (length - position.natAbs)
  else none

/-- Change what is at the end of a path. Whatever stands in the way becomes a table or a list as the path
needs it, and a list grows until it holds the item. -/
def change (update : Setting → Setting) : List SettingStep → Setting → Setting
  | [], setting => update setting
  | .member name :: rest, setting =>
    table (put name ((setting.member name).change update rest) setting.members)
  | .item position :: rest, setting =>
    let items := setting.items
    match place? position items.length with
    | none => setting
    | some place =>
      let items := items ++ List.replicate (place + 1 - items.length) absent
      list (items.set place ((items.getD place absent).change update rest))

/-- Write a value at the end of a path. Members are written over what is there, items are replaced. -/
def write (setting value : Setting) (path : List SettingStep) : Setting :=
  match path.getLast? with
  | some (.item _) => setting.change (fun _ => value) path
  | _ => setting.change (·.overwrite value) path

private def isNameChar (c : Char) : Bool :=
  c.isAlphanum || c = ' ' || c = '_' || c = '-'

private def takeName? (text : List Char) : Option (String × List Char) :=
  let name := text.takeWhile isNameChar
  if name.isEmpty then none else some (String.ofList name, text.dropWhile isNameChar)

private def trimBlanks (text : List Char) : List Char :=
  let isBlank (c : Char) : Bool := c = ' ' || c = '\t'
  ((text.dropWhile isBlank).reverse.dropWhile isBlank).reverse

private def position? (text : List Char) : Option Int :=
  match trimBlanks text with
  | '+' :: _ => none
  | digits => (Text.signed? (String.ofList digits)).filter fun position => position.natAbs ≤ 2147483648

/-- The steps behind the first name of a key, each of which takes at least one character. -/
private def steps? : Nat → List Char → Option (List SettingStep)
  | _, [] => some []
  | bound + 1, '.' :: rest => do
    let (name, rest) ← takeName? rest
    return .member name :: (← steps? bound rest)
  | bound + 1, '[' :: rest => do
    let inside := rest.takeWhile (· ≠ ']')
    let position ← position? inside
    match rest.drop inside.length with
    | ']' :: rest => return .item position :: (← steps? bound rest)
    | _ => none
  | _, _ => none

/-- The path that a key names: names with points between them and positions in square brackets. Any
other key is the name of one member. -/
def path (key : String) : List SettingStep :=
  let steps := do
    let (name, rest) ← takeName? key.toList
    return SettingStep.member name :: (← steps? rest.length rest)
  steps.getD [.member key]

/-- Every key names a member first. -/
theorem exists_path (key : String) : ∃ first rest, path key = .member first :: rest := by
  unfold path
  cases taken : takeName? key.toList with
  | none => exact ⟨key, [], by simp⟩
  | some found =>
    cases stepped : steps? found.2.length found.2 with
    | none => exact ⟨key, [], by simp [stepped]⟩
    | some rest => exact ⟨found.1, rest, by simp [stepped]⟩

private theorem eq_append_of_takeName? {text rest : List Char} {name : String}
    (taken : takeName? text = some (name, rest)) : text = name.toList ++ rest := by
  rw [takeName?] at taken
  split at taken
  · cases taken
  · cases taken
    rw [String.toList_ofList, List.takeWhile_append_dropWhile]

private theorem steps?_cases {bound : Nat} {text : List Char} {steps : List SettingStep}
    (stepped : steps? bound text = some steps) : (steps = [] ∧ text = []) ∨ (∃ name rest bound more,
      steps = .member name :: more ∧ text = '.' :: (name.toList ++ rest) ∧ steps? bound rest = some more) ∨
      ∃ position more, steps = .item position :: more := by
  unfold steps? at stepped
  split at stepped
  · cases stepped
    exact .inl ⟨rfl, rfl⟩
  · obtain ⟨⟨name, rest⟩, taken, stepped⟩ := Option.bind_eq_some_iff.mp stepped
    obtain ⟨more, next, stepped⟩ := Option.bind_eq_some_iff.mp stepped
    cases stepped
    exact .inr (.inl ⟨name, rest, _, more, rfl, by rw [eq_append_of_takeName? taken], next⟩)
  · obtain ⟨position, _, stepped⟩ := Option.bind_eq_some_iff.mp stepped
    split at stepped
    · obtain ⟨more, _, stepped⟩ := Option.bind_eq_some_iff.mp stepped
      cases stepped
      exact .inr (.inr ⟨position, more, rfl⟩)
    · cases stepped
  · cases stepped

private theorem eq_of_steps? {bound : Nat} {text : List Char} {name : String}
    (single : steps? bound text = some [.member name]) : text = '.' :: name.toList := by
  obtain ⟨none, _⟩ | ⟨_, _, _, _, same, rfl, next⟩ | ⟨_, _, item⟩ := steps?_cases single
  · cases none
  · cases same
    obtain ⟨-, rfl⟩ | ⟨_, _, _, _, more, _⟩ | ⟨_, _, more⟩ := steps?_cases next
    · rw [List.append_nil]
    · cases more
    · cases more
  · cases item

/-- A member of a member has one key. -/
theorem key_of_path {key group name : String} (path : path key = [.member group, .member name]) :
    key = group ++ "." ++ name := by
  unfold Setting.path at path
  cases taken : takeName? key.toList with
  | none => simp [taken] at path
  | some found =>
    cases stepped : steps? found.2.length found.2 with
    | none => simp [taken, stepped] at path
    | some rest =>
      simp only [taken, stepped, Option.bind_eq_bind, Option.bind_some, Option.pure_def, Option.getD_some,
        List.cons.injEq, SettingStep.member.injEq] at path
      obtain ⟨rfl, rfl⟩ := path
      have text := eq_append_of_takeName? taken
      rw [eq_of_steps? stepped] at text
      rw [← String.toList_inj, text]
      simp

/-- The entries of a map. Of two with one key the last counts. -/
def collect (entries : List (String × Setting)) : List (String × Setting) :=
  entries.foldl (fun collected entry => put entry.1 entry.2 collected) []

/-- Write all entries of a source, each under the path that its key names. -/
def writeAll (entries : List (String × Setting)) (setting : Setting) : Setting :=
  entries.foldl (fun setting (key, value) => setting.write value (path key)) setting

end Setting

end ModelVault
