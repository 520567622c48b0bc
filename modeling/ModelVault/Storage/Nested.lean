import ModelVault.Storage.Call
import ModelVault.Storage.Numbering

/-!
The engine that keeps everything in memory: an ordered map of models, each with an ordered map of its
versions.
-/

namespace ModelVault.Storage

/-- A version and its payload. -/
structure StoredVersion where
  info : VersionInfo
  data : Bytes
  deriving DecidableEq

/-- A model and its versions by number. -/
structure StoredModel where
  latest : UInt32
  userData : UserData
  versions : Std.ExtTreeMap UInt32 StoredVersion
  deriving DecidableEq

/-- Models by identifier, until the store is destroyed. -/
inductive NestedStore where
  | destroyed
  | live (models : Std.ExtTreeMap String StoredModel)
  deriving DecidableEq

namespace StoredModel

def new (userData : UserData) : StoredModel where
  latest := 0
  userData := userData
  versions := ∅

/-- What is known of the model that is stored under an identifier. -/
def info (model : StoredModel) (modelId : String) : ModelInfo where
  id := modelId
  latest := model.latest
  userData := model.userData

/-- The version of a number, the highest one for zero. -/
def version (model : StoredModel) (modelId : String) (number : UInt32) :
    Except StoreError StoredVersion :=
  if model.versions.isEmpty then .error (.unknownVersion modelId 0)
  else
    let found := if number = 0 then model.versions.toList.getLast?.map (·.2) else model.versions[number]?
    match found with
    | some version => .ok version
    | none => .error (.unknownVersion modelId number)

/-- Put a draft into the model under the number it is assigned. -/
def putVersion (model : StoredModel) (modelId : String) (draft : VersionDraft) :
    Except StoreError (VersionInfo × StoredModel) := do
  let number ← assignNumber modelId model.latest draft.number (model.versions.contains draft.number)
  let info := draft.info modelId number
  return (info, { model with
    versions := model.versions.insert number ⟨info, draft.data⟩
    latest := max model.latest number })

end StoredModel

namespace NestedStore

def empty : NestedStore := .live ∅

def model (store : NestedStore) (modelId : String) : Except StoreError StoredModel :=
  match store with
  | destroyed => .error .destroyed
  | live models =>
    match models[modelId]? with
    | some model => .ok model
    | none => .error (.unknownModel modelId)

/-- Create a model, or replace its user data and nothing else. -/
def putModel (store : NestedStore) (modelId : String) (userData : UserData) :
    Except StoreError ModelInfo × NestedStore :=
  match store with
  | destroyed => (.error .destroyed, store)
  | live models =>
    let model := { models.getD modelId (.new ∅) with userData := userData }
    (.ok (model.info modelId), live (models.insert modelId model))

/-- Delete a model together with its versions. -/
def deleteModel (store : NestedStore) (modelId : String) : Except StoreError Unit × NestedStore :=
  match store with
  | destroyed => (.error .destroyed, store)
  | live models =>
    if models.contains modelId then (.ok (), live (models.erase modelId))
    else (.error (.unknownModel modelId), store)

/-- The identifiers from a position on. -/
def listModels (store : NestedStore) (offset limit : Nat) : Except StoreError (List String) :=
  match store with
  | destroyed => .error .destroyed
  | live models => .ok ((models.keys.drop offset).take (effectiveLimit limit))

/-- Put a version into a model. An unknown model comes into existence first, and stays, without
versions, when the version is refused. -/
def putVersion (store : NestedStore) (modelId : String) (draft : VersionDraft) :
    Except StoreError VersionInfo × NestedStore :=
  match store with
  | destroyed => (.error .destroyed, store)
  | live models =>
    let model := models.getD modelId (.new ∅)
    match model.putVersion modelId draft with
    | .ok (info, model) => (.ok info, live (models.insert modelId model))
    | .error refusal => (.error refusal, live (models.insert modelId model))

/-- Delete a version; the model keeps its latest number. -/
def deleteVersion (store : NestedStore) (modelId : String) (number : UInt32) :
    Except StoreError Unit × NestedStore :=
  match store with
  | destroyed => (.error .destroyed, store)
  | live models =>
    match models[modelId]? with
    | none => (.error (.unknownModel modelId), store)
    | some model =>
      match model.version modelId number with
      | .error refusal => (.error refusal, store)
      | .ok version =>
        let model := { model with versions := model.versions.erase version.info.number }
        (.ok (), live (models.insert modelId model))

/-- The versions from a number on. -/
def listVersions (store : NestedStore) (modelId : String) (first : UInt32) (limit : Nat) :
    Except StoreError (List VersionInfo) := do
  let model ← store.model modelId
  return ((model.versions.toList.filter (first ≤ ·.1)).take (effectiveLimit limit)).map (·.2.info)

def perform (call : Call) (store : NestedStore) : call.Reply × NestedStore :=
  match call with
  | .putModel modelId userData => store.putModel modelId userData
  | .modelInfo modelId => ((store.model modelId).map (·.info modelId), store)
  | .hasModel modelId =>
    match store with
    | destroyed => (.error .destroyed, store)
    | live models => (.ok (models.contains modelId), store)
  | .deleteModel modelId => store.deleteModel modelId
  | .listModels offset limit => (store.listModels offset limit, store)
  | .putVersion modelId draft => store.putVersion modelId draft
  | .versionInfo modelId number =>
    ((store.model modelId >>= (·.version modelId number)).map (·.info), store)
  | .versionData modelId number =>
    ((store.model modelId >>= (·.version modelId number)).map (·.data), store)
  | .deleteVersion modelId number => store.deleteVersion modelId number
  | .listVersions modelId first limit => (store.listVersions modelId first limit, store)
  | .destroy => (.ok (), destroyed)

end NestedStore

end ModelVault.Storage
