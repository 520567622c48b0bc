/-! Machine words of 64 bits, and arithmetic that fails where its result is none of them. -/

namespace ModelVault.Word

/-- The sum of two words, if it is one. -/
def sum? (left right : UInt64) : Option UInt64 :=
  if left.toNat + right.toNat < UInt64.size then some (left + right) else none

/-- The product of two words, if it is one. -/
def product? (left right : UInt64) : Option UInt64 :=
  if left.toNat * right.toNat < UInt64.size then some (left * right) else none

theorem sum?_eq {left right : UInt64} (fits : left.toNat + right.toNat < UInt64.size) :
    sum? left right = some (.ofNat (left.toNat + right.toNat)) := by
  rw [sum?, if_pos fits]
  refine congrArg some (UInt64.toNat_inj.mp ?_)
  rw [UInt64.toNat_add, UInt64.toNat_ofNat_of_lt' fits]
  exact Nat.mod_eq_of_lt fits

theorem product?_eq {left right : UInt64} (fits : left.toNat * right.toNat < UInt64.size) :
    product? left right = some (.ofNat (left.toNat * right.toNat)) := by
  rw [product?, if_pos fits]
  refine congrArg some (UInt64.toNat_inj.mp ?_)
  rw [UInt64.toNat_mul, UInt64.toNat_ofNat_of_lt' fits]
  exact Nat.mod_eq_of_lt fits

theorem toNat_min (left right : UInt64) : (min left right).toNat = min left.toNat right.toNat := by
  change (if left ≤ right then left else right).toNat = _
  simp only [UInt64.le_iff_toNat_le, Nat.min_def]
  split <;> rfl

theorem toNat_max (left right : UInt64) : (max left right).toNat = max left.toNat right.toNat := by
  change (if left ≤ right then right else left).toNat = _
  simp only [UInt64.le_iff_toNat_le, Nat.max_def]
  split <;> rfl

end ModelVault.Word
