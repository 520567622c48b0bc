import ModelVault.Bytes

/-!
Texts are ordered as their octets are: whoever compares UTF-8 octet by octet comes to the order of the characters.
-/

namespace ModelVault.Bytes

/-- The octets of a higher character are higher, whatever follows either. -/
private theorem utf8EncodeChar_lt {one other : Char} (below : one < other) (rest others : Bytes) :
    String.utf8EncodeChar one ++ rest < String.utf8EncodeChar other ++ others := by
  have numbers : one.val.toNat < other.val.toNat := below
  have bound : other.val.toNat < 1114112 := by
    have valid : _ ∨ _ := other.valid
    omega
  have thrice (number : Nat) : number / 4096 = number / 64 / 64 := by omega
  have fourfold (number : Nat) : number / 262144 = number / 64 / 64 / 64 := by omega
  simp only [String.utf8EncodeChar, thrice, fourfold]
  generalize one.val.toNat = low at *
  generalize other.val.toNat = high at *
  -- The first octet is higher the more octets there are, and of as many octets the first that differs decides.
  repeat' split
  all_goals
    simp only [List.cons_append, List.nil_append, List.cons_lt_cons_iff, UInt8.lt_iff_toNat_lt, ← UInt8.toNat_inj,
      UInt8.toNat_ofNat']
    omega

theorem ofText_eq_flatMap (text : String) : ofText text = text.toList.flatMap String.utf8EncodeChar := by
  rw [ofText, String.toUTF8, ← String.utf8Encode_toList, List.utf8Encode, List.toList_data_toByteArray]

private theorem flatMap_lt {first second : List Char} (below : first < second) :
    first.flatMap String.utf8EncodeChar < second.flatMap String.utf8EncodeChar := by
  induction below with
  | @nil character rest =>
    obtain ⟨octet, others, octets⟩ := List.exists_cons_of_ne_nil (String.utf8EncodeChar_ne_nil (c := character))
    rw [List.flatMap_nil, List.flatMap_cons, octets]
    exact .nil
  | @cons character rest others _ ih =>
    rw [List.flatMap_cons, List.flatMap_cons]
    exact List.append_left_lt ih
  | rel below =>
    rw [List.flatMap_cons, List.flatMap_cons]
    exact utf8EncodeChar_lt below _ _

/-- The order of texts is that of their octets. -/
theorem ofText_lt_ofText {first second : String} : ofText first < ofText second ↔ first < second := by
  rw [ofText_eq_flatMap, ofText_eq_flatMap, String.lt_iff]
  refine ⟨fun below => ?_, flatMap_lt⟩
  rcases Decidable.em (first.toList < second.toList) with less | notLess
  · exact less
  · rcases List.le_iff_lt_or_eq.mp (List.not_lt.mp notLess) with above | same
    · exact absurd (List.lt_trans below (flatMap_lt above)) (List.lt_irrefl _)
    · rw [same] at below
      exact absurd below (List.lt_irrefl _)

end ModelVault.Bytes
