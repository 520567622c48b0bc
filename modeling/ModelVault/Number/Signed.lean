/-! The range of signed 64-bit integers. -/

namespace ModelVault

def IsInt64 (number : Int) : Prop :=
  -9223372036854775808 ≤ number ∧ number ≤ 9223372036854775807
deriving Decidable

/-- The number, if it is a signed 64-bit integer. -/
def int64? (number : Int) : Option Int :=
  if IsInt64 number then some number else none

/-- The greatest signed 64-bit integer. -/
def maxInt64 : Int := 9223372036854775807

end ModelVault
