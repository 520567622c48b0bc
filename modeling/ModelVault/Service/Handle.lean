import ModelVault.Service.Status
import ModelVault.Text.Decimal

/-! Handles, the decimal positions that clients hand back to go on with a listing, and pages. -/

namespace ModelVault.Handle

/-- How many bits a position may take. -/
inductive Width where
  | bits32
  | bits64
  deriving DecidableEq

/-- The first number that no longer fits. -/
def Width.bound : Width → Nat
  | bits32 => UInt32.size
  | bits64 => UInt64.size

/-- The position that a handle in a request's field stands for; the empty handle is the start. -/
def parse (width : Width) (field handle : String) : Except Status Nat :=
  if handle = "" then .ok 0
  else if handle.toList.all Text.isDigit then
    match Text.ofDigitsBelow? width.bound handle.toList with
    | some position => .ok position
    | none => .error refusal
  else .error refusal
where
  /-- What is said of everything that is no handle. -/
  refusal : Status :=
    ⟨.invalidArgument, "Invalid value for `" ++ field ++ "` (" ++ Text.quoted handle ++
      ") only empty or values provided by a previous call should be used"⟩

def format (position : Nat) : String :=
  toString position

/-- The items from an offset on, at most `count` of them, or all for zero. -/
def page (items : List α) (offset count : Nat) : List α :=
  if count = 0 then items.drop offset else (items.drop offset).take count

end ModelVault.Handle
