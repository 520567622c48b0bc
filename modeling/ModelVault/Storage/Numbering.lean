import ModelVault.Storage.Error

/-! How versions get their numbers, and how long a listing may be. -/

namespace ModelVault

def maxVersionNumber : UInt32 := 4294967295

/-- A version that exists keeps its number; all others get the one after the latest, which they may
also ask for by name. -/
def assignNumber (modelId : String) (latest requested : UInt32) (exist : Bool) :
    Except StoreError UInt32 :=
  if requested ≠ 0 ∧ exist then .ok requested
  else if latest = maxVersionNumber then .error (.fault (.numbersExhausted modelId))
  else if requested = 0 ∨ requested = latest + 1 then .ok (latest + 1)
  else .error (.invalidVersionNumber modelId requested (latest + 1))

/-- The most entries that one listing call returns. -/
def listingCap : Nat := 1000

/-- The number of entries a listing call returns at most; zero asks for as many as it may. -/
def effectiveLimit (limit : Nat) : Nat :=
  if limit = 0 then listingCap else min limit listingCap

end ModelVault
