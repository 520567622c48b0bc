import ModelVault.Dialogue
import ModelVault.Storage.Error
import ModelVault.Storage.Record

/-! The calls that a store answers, each as one step that nobody else can divide. -/

namespace ModelVault.Storage

/-- A call of a store. Version number zero means the highest version there is. -/
inductive Call where
  /-- Create the model, or replace its user data. -/
  | putModel (modelId : String) (userData : UserData)
  | modelInfo (modelId : String)
  | hasModel (modelId : String)
  /-- Delete the model with all its versions. -/
  | deleteModel (modelId : String)
  /-- Identifiers in their order from a position on. -/
  | listModels (offset limit : Nat)
  /-- Create a version, or replace the one whose number the draft names. -/
  | putVersion (modelId : String) (draft : VersionDraft)
  | versionInfo (modelId : String) (number : UInt32)
  | versionData (modelId : String) (number : UInt32)
  | deleteVersion (modelId : String) (number : UInt32)
  /-- Versions in the order of their numbers from a number on. -/
  | listVersions (modelId : String) (first : UInt32) (limit : Nat)
  /-- Give up everything the store holds; all later calls fail. -/
  | destroy
  deriving DecidableEq

/-- What a successful call returns. -/
def Call.Value : Call → Type
  | putModel _ _ => ModelInfo
  | modelInfo _ => ModelInfo
  | hasModel _ => Bool
  | deleteModel _ => Unit
  | listModels _ _ => List String
  | putVersion _ _ => VersionInfo
  | versionInfo _ _ => VersionInfo
  | versionData _ _ => Bytes
  | deleteVersion _ _ => Unit
  | listVersions _ _ _ => List VersionInfo
  | destroy => Unit

abbrev Call.Reply (call : Call) : Type :=
  Except StoreError call.Value

/-- What can answer calls. -/
class Backend (σ : Type) where
  perform : (call : Call) → σ → call.Reply × σ

end ModelVault.Storage

namespace ModelVault

abbrev StoreDialogue (α : Type) :=
  Dialogue Storage.Call Storage.Call.Reply α

end ModelVault
