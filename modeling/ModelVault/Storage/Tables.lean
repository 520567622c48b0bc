import ModelVault.Storage.Call
import ModelVault.Storage.Numbering

/-!
The engine that keeps two tables, one of models and one of versions, which may live in a file. Rows
hold signed 64-bit integers and user data as JSON text; whoever has the file may have changed them, so
each read checks what it finds. Every change runs in a transaction: when it fails, no row changes.
-/

namespace ModelVault.Storage

/-- A row of the table of models, keyed by the identifier. -/
structure ModelRow where
  id : String
  latest : Int
  userData : String
  deriving DecidableEq

/-- A row of the table of versions, keyed by the model's identifier and the number. -/
structure VersionRow where
  modelId : String
  number : Int
  createdAt : Int
  archived : Bool
  hash : String
  size : Int
  userData : String
  data : Bytes
  deriving DecidableEq

/-- Both tables, their rows in the order of insertion. -/
structure Tables where
  models : List ModelRow
  versions : List VersionRow
  deriving DecidableEq

/-- What a file keeps: the rows of each table that it has. -/
structure Database where
  models? : Option (List ModelRow)
  versions? : Option (List VersionRow)
  deriving DecidableEq

/-- A 64-bit column that has to hold a version number. -/
def versionNumber (stored : Int) : Except StoreError UInt32 :=
  if 0 ≤ stored ∧ stored ≤ maxVersionNumber.toNat then .ok (UInt32.ofNat stored.toNat)
  else .error (.fault (.invalidNumber stored))

/-- A text column that has to hold user data. -/
def storedUserData (stored : String) : Except StoreError UserData :=
  match UserData.read? stored with
  | some userData => .ok userData
  | none => .error (.fault .invalidUserData)

/-- The column of a time, in nanoseconds. -/
def timeColumn (time : Moment) : Except StoreError Int :=
  match time.nanoseconds? with
  | some count => .ok count
  | none => .error (.fault (.timeOutOfRange time))

/-- The column of a payload's size. -/
def sizeColumn (size : Nat) : Except StoreError Int :=
  if (size : Int) ≤ maxInt64 then .ok size else .error (.fault (.payloadTooLarge size))

/-- What a machine can hold is not too large for a row. -/
theorem sizeColumn_length (draft : VersionDraft) : sizeColumn draft.data.length = .ok (draft.data.length : Int) :=
  if_pos draft.addressable

/-- What a row of the table of models says. -/
def ModelRow.info (row : ModelRow) : Except StoreError ModelInfo := do
  return { id := row.id, latest := ← versionNumber row.latest, userData := ← storedUserData row.userData }

/-- What a row of the table of versions says. -/
def VersionRow.info (row : VersionRow) : Except StoreError VersionInfo := do
  let number ← versionNumber row.number
  if row.size < 0 then throw (.fault (.invalidSize row.size))
  let userData ← storedUserData row.userData
  return {
    modelId := row.modelId
    number := number
    createdAt := .ofNanoseconds row.createdAt
    archived := row.archived
    hash := row.hash
    size := row.size.toNat
    userData := userData }

namespace Database

def new : Database := ⟨none, none⟩

/-- Create each table that is not there; one that is there is left as it is. -/
def createTables (database : Database) : Tables where
  models := database.models?.getD []
  versions := database.versions?.getD []

@[simp] theorem createTables_new : new.createTables = ⟨[], []⟩ := rfl

end Database

namespace Tables

/-- The database that a file keeps of the tables. -/
def database (tables : Tables) : Database := ⟨some tables.models, some tables.versions⟩

/-- Tables that are there already are not created anew. -/
@[simp] theorem createTables_database (tables : Tables) : tables.database.createTables = tables := rfl

def modelRow? (tables : Tables) (modelId : String) : Option ModelRow :=
  tables.models.find? (·.id = modelId)

def versionRow? (tables : Tables) (modelId : String) (number : UInt32) : Option VersionRow :=
  tables.versions.find? fun row => row.modelId = modelId ∧ row.number = (number.toNat : Int)

/-- What the tables say of a model, if they have it. -/
def modelInfo? (tables : Tables) (modelId : String) : Except StoreError (Option ModelInfo) :=
  match tables.modelRow? modelId with
  | some row => row.info.map some
  | none => .ok none

/-- What the tables say of a model that they have to have. -/
def modelInfo (tables : Tables) (modelId : String) : Except StoreError ModelInfo := do
  match ← tables.modelInfo? modelId with
  | some info => return info
  | none => throw (.unknownModel modelId)

/-- The greatest number among the versions of a model. -/
def highest? (tables : Tables) (modelId : String) : Option Int :=
  ((tables.versions.filter (·.modelId = modelId)).map (·.number)).max?

/-- The number of an existing version that a request means, the highest for zero. -/
def resolve (tables : Tables) (modelId : String) (number : UInt32) : Except StoreError UInt32 := do
  let _ ← tables.modelInfo modelId
  match tables.highest? modelId with
  | none => throw (.unknownVersion modelId 0)
  | some highest =>
    if number = 0 then versionNumber highest
    else if (tables.versionRow? modelId number).isSome then return number
    else throw (.unknownVersion modelId number)

/-- The row of a version that a request means. -/
def resolvedRow (tables : Tables) (modelId : String) (number : UInt32) : Except StoreError VersionRow := do
  match tables.versionRow? modelId (← tables.resolve modelId number) with
  | some row => return row
  | none => throw (.fault .missingRow)

/-- Add a row for a model that has none. -/
def insertModel (tables : Tables) (modelId : String) (userData : UserData) : Tables :=
  { tables with models := tables.models ++ [⟨modelId, 0, userData.write⟩] }

def updateModel (tables : Tables) (modelId : String) (change : ModelRow → ModelRow) : Tables :=
  { tables with models := tables.models.map fun row => if row.id = modelId then change row else row }

def updateVersion (tables : Tables) (modelId : String) (number : UInt32)
    (change : VersionRow → VersionRow) : Tables :=
  { tables with versions := tables.versions.map fun row =>
      if row.modelId = modelId ∧ row.number = (number.toNat : Int) then change row else row }

/-- Add the row of a version; no other row may have its key. -/
def insertVersion (tables : Tables) (row : VersionRow) : Except StoreError Tables :=
  if tables.versions.any fun other => other.modelId = row.modelId ∧ other.number = row.number then
    .error (.fault (.duplicateVersion row.modelId (UInt32.ofNat row.number.toNat)))
  else .ok { tables with versions := tables.versions ++ [row] }

/-- Create a model, or replace its user data and nothing else. -/
def putModel (tables : Tables) (modelId : String) (userData : UserData) :
    Except StoreError (ModelInfo × Tables) := do
  match ← tables.modelInfo? modelId with
  | some info =>
    return ({ info with userData := userData },
      tables.updateModel modelId fun row => { row with userData := userData.write })
  | none => return (⟨modelId, 0, userData⟩, tables.insertModel modelId userData)

/-- Delete the rows of a model and of its versions. -/
def deleteModel (tables : Tables) (modelId : String) : Except StoreError (Unit × Tables) := do
  let _ ← tables.modelInfo modelId
  return ((), {
    models := tables.models.filter (·.id ≠ modelId)
    versions := tables.versions.filter (·.modelId ≠ modelId) })

/-- The identifiers from a position on; no position past the 64-bit integers is told apart. -/
def listModels (tables : Tables) (offset limit : Nat) : List String :=
  let ids := (tables.models.map (·.id)).mergeSort (· ≤ ·)
  (ids.drop (min offset maxInt64.toNat)).take (effectiveLimit limit)

def draftRow (draft : VersionDraft) (modelId : String) (number : UInt32) (createdAt size : Int) :
    VersionRow where
  modelId := modelId
  number := number.toNat
  createdAt := createdAt
  archived := draft.archived
  hash := draft.hash
  size := size
  userData := draft.userData.write
  data := draft.data

/-- Put a version into a model, which comes into existence if it is unknown. -/
def putVersion (tables : Tables) (modelId : String) (draft : VersionDraft) :
    Except StoreError (VersionInfo × Tables) := do
  let known ← tables.modelInfo? modelId
  let tables := if known.isSome then tables else tables.insertModel modelId ∅
  let latest := (known.map (·.latest)).getD 0
  let exist := draft.number ≠ 0 ∧ (tables.versionRow? modelId draft.number).isSome
  let number ← assignNumber modelId latest draft.number exist
  let createdAt ← timeColumn draft.createdAt
  let size ← sizeColumn draft.data.length
  let row := draftRow draft modelId number createdAt size
  let tables ← if exist then pure (tables.updateVersion modelId number fun _ => row)
    else tables.insertVersion row
  let tables := if latest < number then tables.updateModel modelId ({ · with latest := number.toNat })
    else tables
  return ({ draft.info modelId number with createdAt := .ofNanoseconds createdAt }, tables)

def deleteVersion (tables : Tables) (modelId : String) (number : UInt32) :
    Except StoreError (Unit × Tables) := do
  let resolved ← tables.resolve modelId number
  return ((), { tables with versions := tables.versions.filter fun row =>
    ¬(row.modelId = modelId ∧ row.number = (resolved.toNat : Int)) })

/-- The versions from a number on. -/
def listVersions (tables : Tables) (modelId : String) (first : UInt32) (limit : Nat) :
    Except StoreError (List VersionInfo) := do
  let _ ← tables.modelInfo modelId
  let rows := tables.versions.filter fun row => row.modelId = modelId ∧ (first.toNat : Int) ≤ row.number
  ((rows.mergeSort (·.number ≤ ·.number)).take (effectiveLimit limit)).mapM VersionRow.info

end Tables

/-- Tables and whether the store still uses them; those in a file outlive the store. -/
structure TableStore where
  isOpen : Bool
  tables : Tables
  deriving DecidableEq

namespace TableStore

def ofDatabase (database : Database) : TableStore :=
  ⟨true, database.createTables⟩

def empty : TableStore := ofDatabase .new

/-- Read from the tables of an open store. -/
def read (store : TableStore) (question : Tables → Except StoreError α) : Except StoreError α × TableStore :=
  if store.isOpen then (question store.tables, store) else (.error .destroyed, store)

/-- Change the tables of an open store, or leave them as they are when the change fails. -/
def transact (store : TableStore) (change : Tables → Except StoreError (α × Tables)) :
    Except StoreError α × TableStore :=
  if store.isOpen then
    match change store.tables with
    | .ok (value, tables) => (.ok value, { store with tables := tables })
    | .error refusal => (.error refusal, store)
  else (.error .destroyed, store)

def perform (call : Call) (store : TableStore) : call.Reply × TableStore :=
  match call with
  | .putModel modelId userData => store.transact (·.putModel modelId userData)
  | .modelInfo modelId => store.read (·.modelInfo modelId)
  | .hasModel modelId => store.read fun tables => (tables.modelInfo? modelId).map (·.isSome)
  | .deleteModel modelId => store.transact (·.deleteModel modelId)
  | .listModels offset limit => store.read fun tables => .ok (tables.listModels offset limit)
  | .putVersion modelId draft => store.transact (·.putVersion modelId draft)
  | .versionInfo modelId number =>
    store.read fun tables => tables.resolvedRow modelId number >>= VersionRow.info
  | .versionData modelId number =>
    store.read fun tables => (tables.resolvedRow modelId number).map (·.data)
  | .deleteVersion modelId number => store.transact (·.deleteVersion modelId number)
  | .listVersions modelId first limit => store.read (·.listVersions modelId first limit)
  | .destroy => (.ok (), { store with isOpen := false })

/-- Close the store and open its database again. -/
def reopen (store : TableStore) : TableStore :=
  ofDatabase store.tables.database

/-- What a database keeps outlives the store. -/
theorem reopen_eq (store : TableStore) : store.reopen = ⟨true, store.tables⟩ := by
  rw [reopen, ofDatabase, Tables.createTables_database]

end TableStore

end ModelVault.Storage
