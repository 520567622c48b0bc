import ModelVault.Text.Quoted
import ModelVault.Time.Calendar

/-! The reasons why a store refuses a call, and their wording. -/

namespace ModelVault

/-- Failures of the store itself rather than of the request. -/
inductive StorageFault where
  /-- The model has used up its numbers. -/
  | numbersExhausted (modelId : String)
  /-- The time does not fit a stored row. -/
  | timeOutOfRange (time : Moment)
  /-- The number of octets does not fit a stored row. -/
  | payloadTooLarge (size : Nat)
  /-- A row holds a number that is no version number. -/
  | invalidNumber (stored : Int)
  /-- A row holds a negative size. -/
  | invalidSize (stored : Int)
  /-- A row holds user data that is no JSON object of texts. -/
  | invalidUserData
  /-- The table holds a row with this key already. -/
  | duplicateVersion (modelId : String) (number : UInt32)
  /-- A row that was there a moment ago is gone. -/
  | missingRow
  /-- No engine has this name. -/
  | unsupportedEngine (name : String)
  /-- The file of the tables cannot be opened. -/
  | unopenable (path : String)
  /-- Anything else, in the words of whoever reports it. -/
  | reported (text : String)
  deriving DecidableEq

/-- Why a store refuses a call. -/
inductive StoreError where
  | unknownModel (modelId : String)
  /-- The model has no version of this number; zero says that it has no version at all. -/
  | unknownVersion (modelId : String) (number : UInt32)
  /-- The number asked for is neither that of a version nor the next one. -/
  | invalidVersionNumber (modelId : String) (requested next : UInt32)
  | destroyed
  | fault (cause : StorageFault)
  deriving DecidableEq

def StorageFault.message : StorageFault → String
  | numbersExhausted modelId =>
    "model " ++ Text.quoted modelId ++ " has no version number left to assign"
  | timeOutOfRange time => "creation timestamp " ++ time.text ++ " is out of range"
  | payloadTooLarge size => "payload of " ++ toString size ++ " bytes is too large"
  | invalidNumber stored => "invalid stored version number " ++ toString stored
  | invalidSize stored => "invalid stored data size " ++ toString stored
  | invalidUserData => "invalid user data encoding"
  | duplicateVersion modelId number =>
    "Constraint Error: Duplicate key \"model_id: " ++ modelId ++ ", version_number: " ++
      toString number ++ "\" violates primary key constraint"
  | missingRow => "Query returned no rows"
  | unsupportedEngine name =>
    "unsupported storage engine " ++ Text.quoted name ++ " (expected \"duckdb\" or \"memory\")"
  | unopenable path => "IO Error: Cannot open file \"" ++ path ++ "\""
  | reported text => text

def StoreError.message : StoreError → String
  | unknownModel modelId => "no model " ++ Text.quoted modelId ++ " found"
  | unknownVersion modelId number =>
    if number = 0 then "model " ++ Text.quoted modelId ++ " doesn't have any version yet"
    else "no version \"" ++ toString number ++ "\" for model " ++ Text.quoted modelId ++ " found"
  | invalidVersionNumber modelId requested next =>
    "version \"" ++ toString requested ++ "\" can't be created for model " ++ Text.quoted modelId ++
      ", expected an existing version or \"" ++ toString next ++ "\""
  | destroyed => "backend has been destroyed"
  | fault cause => cause.message

end ModelVault
