import ModelVault.Storage.Error

/-! The statuses that refuse a request. -/

namespace ModelVault

/-- The class of a refusal, after the codes that remote calls end with. -/
inductive StatusCode where
  | invalidArgument | deadlineExceeded | notFound | resourceExhausted | aborted | outOfRange
  | unimplemented | internal | dataLoss
  deriving DecidableEq, Repr

/-- Why a request was refused. -/
structure Status where
  code : StatusCode
  message : String
  deriving DecidableEq

/-- The status of a request that a store refused. What is missing or misnumbered says so itself; all
else is internal and names the action that failed. -/
def StoreError.status (action : String) (refusal : StoreError) : Status :=
  match refusal with
  | unknownModel _ => ⟨.notFound, refusal.message⟩
  | unknownVersion _ _ => ⟨.notFound, refusal.message⟩
  | invalidVersionNumber _ _ _ => ⟨.invalidArgument, refusal.message⟩
  | destroyed => ⟨.internal, "unexpected error while " ++ action ++ ": " ++ refusal.message⟩
  | fault _ => ⟨.internal, "unexpected error while " ++ action ++ ": " ++ refusal.message⟩

end ModelVault
