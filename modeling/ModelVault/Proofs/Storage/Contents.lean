import ModelVault.Proofs.Json.Reading
import ModelVault.Storage.Store

/-!
What both engines hold, in one form: models by identifier, each with its versions by number. The
nested engine holds it as it is; the tables are read row by row, the first row of a key counting.
-/

namespace ModelVault.Storage

section Index

variable {Row Key Value : Type} [Ord Key] [Std.TransOrd Key]

/-- Rows as a map. Of the rows with one key the first counts, as in every search of a table. -/
def indexed (key : Row → Key) (value : Row → Value) : List Row → Std.ExtTreeMap Key Value
  | [] => ∅
  | row :: rest => (indexed key value rest).insert (key row) (value row)

variable [Std.LawfulEqOrd Key] [DecidableEq Key]

theorem getElem?_indexed (key : Row → Key) (value : Row → Value) (rows : List Row) (wanted : Key) :
    (indexed key value rows)[wanted]? = (rows.find? (key · = wanted)).map value := by
  induction rows with
  | nil => rfl
  | cons row rest ih =>
    rw [indexed, Std.ExtTreeMap.getElem?_insert, List.find?_cons, ih]
    by_cases same : key row = wanted
    · simp [same]
    · simp [same]

end Index

def VersionRow.key (row : VersionRow) : UInt32 :=
  UInt32.ofNat row.number.toNat

def VersionRow.stored (row : VersionRow) : StoredVersion where
  info := {
    modelId := row.modelId
    number := row.key
    createdAt := .ofNanoseconds row.createdAt
    archived := row.archived
    hash := row.hash
    size := row.size.toNat
    userData := (UserData.read? row.userData).getD ∅ }
  data := row.data

namespace Tables

def storedModel (tables : Tables) (row : ModelRow) : StoredModel where
  latest := UInt32.ofNat row.latest.toNat
  userData := (UserData.read? row.userData).getD ∅
  versions := indexed VersionRow.key VersionRow.stored (tables.versions.filter (·.modelId = row.id))

def contents (tables : Tables) : Std.ExtTreeMap String StoredModel :=
  indexed ModelRow.id tables.storedModel tables.models

theorem getElem?_contents (tables : Tables) (modelId : String) :
    tables.contents[modelId]? = (tables.modelRow? modelId).map tables.storedModel :=
  getElem?_indexed ModelRow.id tables.storedModel tables.models modelId

end Tables

/-- The models that a store holds; a store of tables holds them while it is closed, too. -/
def Store.contents : Store → Std.ExtTreeMap String StoredModel
  | nested .destroyed => ∅
  | nested (.live models) => models
  | tabular store => store.tables.contents

def Store.isOpen : Store → Bool
  | nested .destroyed => false
  | nested (.live _) => true
  | tabular store => store.isOpen

/-- The versions of a model have numbers that it has handed out, and say what is true of them. -/
structure StoredModel.Sound (model : StoredModel) (modelId : String) : Prop where
  handedOut : ∀ number ∈ model.versions, 1 ≤ number.toNat ∧ number.toNat ≤ model.latest.toNat
  described : ∀ (number : UInt32) (version : StoredVersion), model.versions[number]? = some version →
    version.info.modelId = modelId ∧ version.info.number = number ∧ version.info.size = version.data.length

/-- A row of the table of models as the engine writes it. -/
structure ModelRow.Valid (row : ModelRow) : Prop where
  latest : 0 ≤ row.latest ∧ row.latest ≤ maxVersionNumber.toNat
  userData : ∃ userData : UserData, row.userData = userData.write

/-- A row of the table of versions as the engine writes it. -/
structure VersionRow.Valid (row : VersionRow) : Prop where
  number : 1 ≤ row.number ∧ row.number ≤ maxVersionNumber.toNat
  createdAt : IsInt64 row.createdAt
  size : row.size = row.data.length
  userData : ∃ userData : UserData, row.userData = userData.write

/-- Tables that nobody but the engine has changed: keys are unique, and each version has a model that
has handed out its number. -/
structure Tables.WellFormed (tables : Tables) : Prop where
  modelKeys : (tables.models.map (·.id)).Nodup
  versionKeys : (tables.versions.map fun row => (row.modelId, row.number)).Nodup
  models : ∀ row ∈ tables.models, row.Valid
  versions : ∀ row ∈ tables.versions, row.Valid
  owned : ∀ row ∈ tables.versions, ∃ model ∈ tables.models,
    model.id = row.modelId ∧ row.number ≤ model.latest

@[simp] theorem toNat_maxVersionNumber : maxVersionNumber.toNat = 4294967295 := rfl

theorem versionNumber_toNat (number : UInt32) : versionNumber (number.toNat : Int) = .ok number := by
  have bound := number.toNat_lt
  rw [versionNumber, if_pos, Int.toNat_natCast, UInt32.ofNat_toNat]
  simp only [toNat_maxVersionNumber]
  omega

theorem storedUserData_write (userData : UserData) : storedUserData userData.write = .ok userData := by
  simp [storedUserData]

theorem ModelRow.Valid.latest_eq {row : ModelRow} (valid : row.Valid) :
    row.latest = ((UInt32.ofNat row.latest.toNat).toNat : Int) := by
  have bound := valid.latest
  simp only [toNat_maxVersionNumber] at bound
  rw [UInt32.toNat_ofNat_of_lt' (by simp only [UInt32.size]; omega)]
  omega

theorem VersionRow.Valid.number_eq {row : VersionRow} (valid : row.Valid) :
    row.number = (row.key.toNat : Int) := by
  have bound := valid.number
  simp only [toNat_maxVersionNumber] at bound
  rw [VersionRow.key, UInt32.toNat_ofNat_of_lt' (by simp only [UInt32.size]; omega)]
  omega

theorem ModelRow.Valid.info_eq {row : ModelRow} (valid : row.Valid) (tables : Tables) :
    row.info = .ok ((tables.storedModel row).info row.id) := by
  obtain ⟨userData, written⟩ := valid.userData
  rw [ModelRow.info, valid.latest_eq, versionNumber_toNat, written, storedUserData_write]
  simp [StoredModel.info, Tables.storedModel, written]
  rfl

theorem VersionRow.Valid.info_eq {row : VersionRow} (valid : row.Valid) :
    row.info = .ok row.stored.info := by
  obtain ⟨userData, written⟩ := valid.userData
  have size : ¬row.size < 0 := by rw [valid.size]; omega
  rw [VersionRow.info, valid.number_eq, versionNumber_toNat, written, storedUserData_write]
  simp [size, VersionRow.stored, written]
  rfl

end ModelVault.Storage
