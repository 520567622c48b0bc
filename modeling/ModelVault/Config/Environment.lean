import ModelVault.Config.Setting
import ModelVault.Environment
import ModelVault.Number.Signed

/-! Settings from environment variables. -/

namespace ModelVault.Environment

/-- Lower case. Of the letters beyond ASCII, only the Kelvin sign has a lower case within it, and no other
can take part in the name of a setting. -/
def lowerCase (text : String) : String :=
  text.map fun c => if c = '\u212a' then 'k' else c.toLower

/-- What the names of all settings begin with. -/
def settingPrefix : String := "model_registry_"

/-- Two underscores part the levels of a name. -/
def levels : List Char → List Char
  | '_' :: '_' :: rest => '.' :: levels rest
  | c :: rest => c :: levels rest
  | [] => []

/-- The key of the setting that a variable gives. -/
def key? (name : String) : Option String :=
  let name := (lowerCase name).toList
  if settingPrefix.toList.isPrefixOf name then
    some (String.ofList (levels (name.drop settingPrefix.length)))
  else none

/-- A value is a flag or a number if it reads as one. -/
def value (text : String) : Setting :=
  let lower := text.toLower
  if lower = "true" then .flag true
  else if lower = "false" then .flag false
  else
    match (Text.signed? lower).filter (IsInt64 ·) with
    | some number => .integer number
    | none =>
      match Binary64.ofText? lower with
      | some number => .decimal number
      | none => .text text

/-- The settings that variables give, by key. -/
def settings (environment : Environment) : List (String × Setting) :=
  Setting.collect (environment.filterMap fun (name, text) => (key? name).map fun key => (key, value text))

end ModelVault.Environment
