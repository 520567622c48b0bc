import Mathlib.Data.List.Induction
import Mathlib.Data.Nat.Digits.Defs
import ModelVault.Text.Decimal

/-!
Decimal numerals are read as the numbers that they were written for, and short ones write small numbers. Reading
below a bound, step by step, is the same as reading and comparing, and digits have the same value exactly if they
are the same but for the zeros in front.
-/

namespace ModelVault.Text

private theorem isDigit_of_isDigit {c : Char} (digit : c.isDigit = true) : isDigit c = true := by
  simp only [Char.isDigit, Bool.and_eq_true, decide_eq_true_eq] at digit
  exact decide_eq_true digit

private theorem toList_toString (number : Nat) : (toString number).toList = Nat.toDigits 10 number := by
  rw [Nat.toString_eq_repr, Nat.toList_repr]

theorem isDigit_of_mem_toString {number : Nat} {c : Char} (member : c ∈ (toString number).toList) :
    isDigit c = true := by
  rw [toList_toString] at member
  exact isDigit_of_isDigit (Nat.isDigit_of_mem_toDigits (by omega) (by omega) member)

theorem ofDigits_toString (number : Nat) : ofDigits (toString number).toList = number := by
  rw [toList_toString]
  exact Nat.ofDigitChars_toDigits (by omega) (by omega)

theorem ofDigits_lt {digits : List Char} (decimal : ∀ c ∈ digits, isDigit c = true) :
    ofDigits digits < 10 ^ digits.length := by
  have step (value : Nat) : digits.foldl (fun value c => 10 * value + (c.toNat - 48)) value <
      (value + 1) * 10 ^ digits.length := by
    induction digits generalizing value with
    | nil => simp
    | cons c rest ih =>
      have digit : c ≤ '9' := (of_decide_eq_true (decimal c (List.mem_cons_self ..))).2
      have small : c.toNat ≤ 57 := digit
      have others :=
        ih (fun other member => decimal other (List.mem_cons_of_mem _ member)) (10 * value + (c.toNat - 48))
      rw [List.foldl_cons, List.length_cons, Nat.pow_succ]
      refine Nat.lt_of_lt_of_le others ?_
      rw [Nat.mul_comm (10 ^ _) 10, ← Nat.mul_assoc]
      exact Nat.mul_le_mul_right _ (by omega)
  have bound := step 0
  rwa [Nat.zero_add, Nat.one_mul] at bound

/-! ### Digits below a bound -/

/-- A number that has reached the bound does not come back below it with another digit, so that it is enough to look
at what the number becomes. -/
theorem appendDigit?_eq (bound number : Nat) (c : Char) :
    appendDigit? bound number c = below? bound (10 * number + (c.toNat - 48)) := by
  by_cases shifted : 10 * number < bound
  · rw [appendDigit?, below?, if_pos shifted]
    rfl
  · have exceeds : ¬10 * number + (c.toNat - 48) < bound := by omega
    rw [appendDigit?, below?, if_neg shifted, below?, if_neg exceeds]
    rfl

theorem ofDigits_concat (digits : List Char) (c : Char) :
    ofDigits (digits ++ [c]) = 10 * ofDigits digits + (c.toNat - 48) := by
  rw [ofDigits, List.foldl_append]
  rfl

theorem ofDigitsBelow?_concat (bound : Nat) (digits : List Char) (c : Char) :
    ofDigitsBelow? bound (digits ++ [c]) = (ofDigitsBelow? bound digits).bind (appendDigit? bound · c) := by
  rw [ofDigitsBelow?, List.foldlM_append]
  simp only [List.foldlM_cons, List.foldlM_nil, bind_pure]
  rfl

/-- Whatever the digits and however many of them, checking every step is checking the number that they write. -/
theorem ofDigitsBelow?_eq {bound : Nat} (positive : 0 < bound) (digits : List Char) :
    ofDigitsBelow? bound digits = below? bound (ofDigits digits) := by
  induction digits using List.reverseRecOn with
  | nil => exact (if_pos positive).symm
  | append_singleton digits c ih =>
    rw [ofDigitsBelow?_concat, ih, ofDigits_concat]
    by_cases inside : ofDigits digits < bound
    · rw [below?, if_pos inside]
      exact appendDigit?_eq bound (ofDigits digits) c
    · have exceeds : ¬10 * ofDigits digits + (c.toNat - 48) < bound := by omega
      rw [below?, if_neg inside, below?, if_neg exceeds]
      rfl

/-! ### The value of digits -/

def digitValue (c : Char) : Nat :=
  c.toNat - 48

/-- The decimal value of digits: the last one counts ones, the one before it tens, and so on. -/
def value (digits : List Char) : Nat :=
  Nat.ofDigits 10 (digits.reverse.map digitValue)

theorem ofDigits_eq_value (digits : List Char) : ofDigits digits = value digits := by
  rw [value, Nat.ofDigits_eq_foldr, List.foldr_map, List.foldr_reverse, ofDigits]
  congr 1
  funext number c
  exact Nat.add_comm ..

theorem value_dropWhile_zero (digits : List Char) : value (digits.dropWhile (· = '0')) = value digits := by
  induction digits with
  | nil => rfl
  | cons c rest ih =>
    by_cases zero : c = '0'
    · subst zero
      rw [List.dropWhile_cons_of_pos (by decide), ih, ← ofDigits_eq_value, ← ofDigits_eq_value]
      rfl
    · rw [List.dropWhile_cons_of_neg (by simpa using zero)]

theorem digitValue_lt {c : Char} (digit : isDigit c = true) : digitValue c < 10 := by
  obtain ⟨-, high⟩ := of_decide_eq_true digit
  have high : c.toNat ≤ 57 := high
  rw [digitValue]
  omega

theorem digitChar_digitValue {c : Char} (digit : isDigit c = true) : (digitValue c).digitChar = c := by
  obtain ⟨low, high⟩ := of_decide_eq_true digit
  have low : 48 ≤ c.toNat := low
  have high : c.toNat ≤ 57 := high
  have code : c.toNat = digitValue c + 48 := by
    rw [digitValue]
    omega
  have small := digitValue_lt digit
  rw [← Char.ofNat_toNat c, code]
  generalize digitValue c = number at small ⊢
  decide +revert

theorem digits_value {digits : List Char} (decimal : ∀ c ∈ digits, isDigit c = true) (lead : digits.head? ≠ some '0') :
    Nat.digits 10 (value digits) = digits.reverse.map digitValue := by
  refine Nat.digits_ofDigits 10 (by omega) _ ?_ ?_
  · intro number member
    obtain ⟨c, inside, rfl⟩ := List.mem_map.mp member
    exact digitValue_lt (decimal c (List.mem_reverse.mp inside))
  · intro present zero
    cases digits with
    | nil => exact present rfl
    | cons c rest =>
      rw [List.getLast_map, List.getLast_reverse, List.head_cons] at zero
      have first := digitChar_digitValue (decimal c (List.mem_cons_self ..))
      rw [zero] at first
      exact lead (congrArg some first.symm)

/-- What remains of digits without the zeros in front depends on their value alone. -/
theorem dropWhile_zero_eq {digits : List Char} (decimal : ∀ c ∈ digits, isDigit c = true) :
    digits.dropWhile (· = '0') = ((Nat.digits 10 (value digits)).map Nat.digitChar).reverse := by
  have left : ∀ c ∈ digits.dropWhile (· = '0'), isDigit c = true :=
    fun c member => decimal c ((List.dropWhile_sublist _).subset member)
  have lead : (digits.dropWhile (· = '0')).head? ≠ some '0' := by
    intro zero
    have stopped := List.head?_dropWhile_not (· = '0') digits
    rw [zero] at stopped
    simp at stopped
  have same : (digits.dropWhile (· = '0')).map (Nat.digitChar ∘ digitValue) = digits.dropWhile (· = '0') :=
    (List.map_congr_left fun c member => digitChar_digitValue (left c member)).trans (List.map_id _)
  rw [← value_dropWhile_zero, digits_value left lead, List.map_map, List.map_reverse, List.reverse_reverse, same]

/-- Digits have the same value exactly if they are the same but for the zeros in front. -/
theorem value_eq_iff {digits other : List Char} (decimal : ∀ c ∈ digits, isDigit c = true)
    (otherDecimal : ∀ c ∈ other, isDigit c = true) :
    value digits = value other ↔ digits.dropWhile (· = '0') = other.dropWhile (· = '0') := by
  constructor
  · intro same
    rw [dropWhile_zero_eq decimal, dropWhile_zero_eq otherDecimal, same]
  · intro same
    rw [← value_dropWhile_zero digits, same, value_dropWhile_zero]

end ModelVault.Text
