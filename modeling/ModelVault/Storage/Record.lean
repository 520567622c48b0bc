import ModelVault.Bytes
import ModelVault.Time.Moment
import ModelVault.UserData

/-! What a store holds: models, and versions of models with their payloads. -/

namespace ModelVault

/-- What is known of a model. `latest` is the number handed out last, zero before the first. -/
structure ModelInfo where
  id : String
  latest : UInt32
  userData : UserData
  deriving DecidableEq

/-- What is known of a version, its payload apart. -/
structure VersionInfo where
  modelId : String
  number : UInt32
  createdAt : Moment
  archived : Bool
  hash : String
  size : Nat
  userData : UserData
  deriving DecidableEq

/-- A machine can hold so many octets: a signed 64-bit integer counts them. -/
def Bytes.Addressable (bytes : Bytes) : Prop :=
  (bytes.length : Int) ≤ maxInt64

instance (bytes : Bytes) : Decidable bytes.Addressable :=
  inferInstanceAs (Decidable (_ ≤ _))

theorem Bytes.Addressable.lt_size {bytes : Bytes} (addressable : bytes.Addressable) :
    bytes.length < UInt64.size := by
  have below : maxInt64 < (UInt64.size : Int) := by decide
  exact Int.ofNat_lt.mp (Int.lt_of_le_of_lt addressable below)

/-- A version to be stored. The number zero leaves the choice to the store. -/
structure VersionDraft where
  number : UInt32
  createdAt : Moment
  archived : Bool
  hash : String
  data : Bytes
  userData : UserData
  addressable : data.Addressable := by decide
  deriving DecidableEq

/-- What is known of a draft once it has its number. -/
def VersionDraft.info (draft : VersionDraft) (modelId : String) (number : UInt32) : VersionInfo where
  modelId := modelId
  number := number
  createdAt := draft.createdAt
  archived := draft.archived
  hash := draft.hash
  size := draft.data.length
  userData := draft.userData

end ModelVault
