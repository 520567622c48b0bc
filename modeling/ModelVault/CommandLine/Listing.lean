import ModelVault.Time.Calendar
import ModelVault.Wire.Message

/-! The listings of models and versions: JSON with the members in the order of their names, and lines. -/

namespace ModelVault.Listing

open Wire (ModelEntry VersionEntry)

/-- The time of a version, at the latest the last one that a row can hold. -/
def timeText (timestamp : UInt64) : String :=
  (Moment.ofNanoseconds (min timestamp.toNat maxInt64)).rfc3339

def modelJson (model : ModelEntry) : Json :=
  .object [("model_id", .string model.modelId), ("user_data", model.userData.toJson)]

/-- A model as a line: its identifier, a tab and its user data. -/
def modelLine (model : ModelEntry) : String :=
  model.modelId ++ "\t" ++ Text.quotedPairs model.userData.toPairs

def versionJson (version : VersionEntry) : Json :=
  .object [
    ("archived", .bool version.archived),
    ("creation_timestamp", .string (timeText version.createdAt)),
    ("data_hash", .string version.hash),
    ("data_size", .integer version.size.toNat),
    ("model_id", .string version.modelId),
    ("user_data", version.userData.toJson),
    ("version_number", .integer version.number.toNat)]

/-- A line of the table of versions; the last column takes what room it needs. -/
def row (number created size archived hash : String) : String :=
  Text.padRight 8 number ++ " " ++ Text.padRight 34 created ++ " " ++ Text.padLeft 12 size ++ " " ++
    Text.padRight 9 archived ++ " " ++ hash

def header : String :=
  row "VERSION" "CREATED" "SIZE" "ARCHIVED" "HASH"

/-- A version as a line of the table. -/
def versionLine (version : VersionEntry) : String :=
  row (toString version.number) (timeText version.createdAt) (toString version.size)
    (if version.archived then "true" else "false") version.hash

def models (json : Bool) (models : List ModelEntry) : List String :=
  if json then [(Json.array (models.map modelJson)).pretty] else models.map modelLine

def versions (json : Bool) (versions : List VersionEntry) : List String :=
  if json then [(Json.array (versions.map versionJson)).pretty] else header :: versions.map versionLine

end ModelVault.Listing
