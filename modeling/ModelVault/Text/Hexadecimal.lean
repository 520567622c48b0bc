/-! Hexadecimal digits and numerals. -/

namespace ModelVault.Text

/-- The value of a hexadecimal digit in either case. -/
def hexValue? (c : Char) : Option Nat :=
  if '0' ≤ c ∧ c ≤ '9' then some (c.toNat - 48)
  else if 'a' ≤ c ∧ c ≤ 'f' then some (c.toNat - 87)
  else if 'A' ≤ c ∧ c ≤ 'F' then some (c.toNat - 55)
  else none

/-- The lowercase hexadecimal digits of a number, without leading zeros. -/
def hexNumeral (number : Nat) : String :=
  String.ofList (Nat.toDigits 16 number)

end ModelVault.Text
