import ModelVault.Bytes
import ModelVault.Config.Setting
import ModelVault.Json.Reader
import ModelVault.Number.Signed
import ModelVault.Toml.Document

/-!
Files of settings in any number of formats. The extension of a file's name tells its format, and a file that is
named without its extension is found under that of each format.
-/

namespace ModelVault

namespace Setting

mutual

/-- The setting that a JSON value writes. There are no numbers beyond all decimals. -/
def ofJson? : Json → Option Setting
  | .null => some absent
  | .bool value => some (flag value)
  | .integer value =>
    some (if IsInt64 value then integer value else decimal (.ofDecimal (value < 0) value.natAbs 0))
  | .decimal source =>
    match Binary64.ofText? source with
    | some (.finite negative significand exponent) => some (decimal (.finite negative significand exponent))
    | _ => none
  | .string value => some (text value)
  | .array items => (itemsOfJson? items).map list
  | .object members => (membersOfJson? members).map (table ∘ collect)

/-- The settings that the items of a JSON array write. -/
def itemsOfJson? : List Json → Option (List Setting)
  | [] => some []
  | item :: rest => do return (← ofJson? item) :: (← itemsOfJson? rest)

/-- The settings that the members of a JSON object write. -/
def membersOfJson? : List (String × Json) → Option (List (String × Setting))
  | [] => some []
  | (name, value) :: rest => do return (name, ← ofJson? value) :: (← membersOfJson? rest)

end

end Setting

namespace Config

/-- A format of files: the extensions that tell it, and the settings by key that a text writes in it. -/
structure FileFormat where
  extensions : List String
  read? : String → Option (List (String × Setting))

namespace FileFormat

def toml : FileFormat := ⟨["toml"], Toml.read?⟩

/-- JSON documents, which have to be objects. -/
def json : FileFormat where
  extensions := ["json"]
  read? text :=
    match (Json.read? text).bind Setting.ofJson? with
    | some (.table members) => some members
    | _ => none

end FileFormat

/-- A path backwards, without what only directories end in. -/
private def withoutEnd : List Char → List Char
  | '/' :: rest => withoutEnd rest
  | '.' :: '/' :: rest => withoutEnd rest
  | path => path

/-- The path of a name to which an extension can be added, unless it leads up or stays where it is. -/
def stem? (name : String) : Option String :=
  let path := withoutEnd name.toList.reverse
  let part := path.takeWhile (· ≠ '/')
  if part = [] ∨ part = ['.'] ∨ part = ['.', '.'] then none else some (String.ofList path.reverse)

/-- The names under which a file of settings is looked for: its own, and with the extensions of the formats. -/
def fileNames (formats : List FileFormat) (name : String) : List String :=
  name :: (stem? name).toList.flatMap fun stem =>
    (formats.flatMap (·.extensions)).map fun extension => stem ++ "." ++ extension

/-- The extension of a path: what is behind the last point of its last part, unless that begins the part. -/
def extension (path : String) : String :=
  let part := (path.toList.reverse.dropWhile (· = '/')).takeWhile (· ≠ '/')
  let ending := part.takeWhile (· ≠ '.')
  if ending.length + 1 < part.length then String.ofList ending.reverse else ""

/-- The settings of a file of some name and contents. -/
def fileSettings? (formats : List FileFormat) (path : String) (contents : Bytes) :
    Option (List (String × Setting)) := do
  let format ← formats.find? fun format => extension path ∈ format.extensions
  format.read? (← contents.text?)

end Config

end ModelVault
