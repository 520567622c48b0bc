import ModelVault.Proofs.Text.Numerals
import ModelVault.Service.Handle

/-!
Which handles stand for which positions. A handle is read digit by digit, within the positions of its width; still
every numeral of a position is accepted, however many zeros lead it, and nothing else is.
-/

namespace ModelVault.Handle

variable {width : Width} {field handle : String} {position : Nat}

/-- A handle is the numeral of its position, or is refused. -/
theorem parse_eq (width : Width) (field handle : String) :
    parse width field handle =
      if handle.toList.all Text.isDigit ∧ Text.ofDigits handle.toList < width.bound then
        .ok (Text.ofDigits handle.toList)
      else .error (parse.refusal field handle) := by
  have positive : 0 < width.bound := by cases width <;> decide
  by_cases empty : handle = ""
  · subst empty
    rw [parse, if_pos rfl, if_pos ⟨rfl, positive⟩]
    rfl
  · rw [parse, if_neg empty, Text.ofDigitsBelow?_eq positive, Text.below?]
    by_cases decimal : handle.toList.all Text.isDigit = true
    · rw [if_pos decimal]
      by_cases fits : Text.ofDigits handle.toList < width.bound
      · rw [if_pos fits, if_pos ⟨decimal, fits⟩]
      · rw [if_neg fits, if_neg fun both => fits both.2]
    · rw [if_neg decimal, if_neg fun both => decimal both.1]

theorem parse_format (width : Width) (field : String) {position : Nat} (fits : position < width.bound) :
    parse width field (format position) = .ok position := by
  have decimal : (toString position).toList.all Text.isDigit = true :=
    List.all_eq_true.mpr fun _ => Text.isDigit_of_mem_toString
  rw [parse_eq, format, Text.ofDigits_toString, if_pos ⟨decimal, fits⟩]

theorem lt_of_parse (parsed : parse width field handle = .ok position) : position < width.bound := by
  rw [parse_eq] at parsed
  split at parsed
  · next accepted =>
    cases parsed
    exact accepted.2
  · cases parsed

/-- What handles write: the empty one the start, and digits their value. -/
inductive Writes : String → Nat → Prop where
  | start : Writes "" 0
  | digits (handle : String) (present : handle ≠ "") (decimal : ∀ c ∈ handle.toList, Text.isDigit c = true) :
    Writes handle (Text.value handle.toList)

theorem writes_iff :
    Writes handle position ↔ (∀ c ∈ handle.toList, Text.isDigit c = true) ∧ Text.value handle.toList = position := by
  constructor
  · intro written
    cases written with
    | start => exact ⟨nofun, rfl⟩
    | digits _ present decimal => exact ⟨decimal, rfl⟩
  · rintro ⟨decimal, rfl⟩
    by_cases empty : handle = ""
    · subst empty
      exact .start
    · exact .digits handle empty decimal

theorem parse_eq_ok : parse width field handle = .ok position ↔ Writes handle position ∧ position < width.bound := by
  rw [parse_eq, writes_iff, Text.ofDigits_eq_value]
  constructor
  · intro parsed
    split at parsed
    · next accepted =>
      cases parsed
      exact ⟨⟨List.all_eq_true.mp accepted.1, rfl⟩, accepted.2⟩
    · cases parsed
  · rintro ⟨⟨decimal, rfl⟩, fits⟩
    exact if_pos ⟨List.all_eq_true.mpr decimal, fits⟩

theorem parse_refused (unwritten : ¬∃ position, Writes handle position ∧ position < width.bound) :
    parse width field handle = .error (parse.refusal field handle) := by
  rw [parse_eq, if_neg]
  rintro ⟨decimal, fits⟩
  rw [Text.ofDigits_eq_value] at fits
  exact unwritten ⟨_, writes_iff.mpr ⟨List.all_eq_true.mp decimal, rfl⟩, fits⟩

/-- In positions of either width: the handles that stand for one are the empty one, which stands for the start, and
the numerals of the positions, with any number of zeros in front. All else is refused as an invalid argument. A
position's own handle stands for it, and two handles that are not empty stand for the same position exactly if they
differ in zeros in front at most. -/
theorem parse_exact (width : Width) (field : String) :
    (∀ handle position, parse width field handle = .ok position ↔ Writes handle position ∧ position < width.bound) ∧
    (∀ handle, (¬∃ position, Writes handle position ∧ position < width.bound) →
      parse width field handle = .error ⟨.invalidArgument, "Invalid value for `" ++ field ++ "` (" ++
        Text.quoted handle ++ ") only empty or values provided by a previous call should be used"⟩) ∧
    (∀ position, position < width.bound → parse width field (format position) = .ok position) ∧
    ∀ handle other position otherPosition, handle ≠ "" → other ≠ "" →
      parse width field handle = .ok position → parse width field other = .ok otherPosition →
        (position = otherPosition ↔
          handle.toList.dropWhile (· = '0') = other.toList.dropWhile (· = '0')) := by
  refine ⟨fun _ _ => parse_eq_ok, fun _ => parse_refused, fun _ => parse_format width field, ?_⟩
  intro handle other position otherPosition _ _ parsed otherParsed
  obtain ⟨decimal, rfl⟩ := writes_iff.mp (parse_eq_ok.mp parsed).1
  obtain ⟨otherDecimal, rfl⟩ := writes_iff.mp (parse_eq_ok.mp otherParsed).1
  exact Text.value_eq_iff decimal otherDecimal

/-- The last position of 32 bits stands behind three zeros, too. The number after it is none, nor is one with a sign. -/
theorem parse_exact_last_position :
    let parsed := parse .bits32 "version_handle"
    parsed "0004294967295" = .ok 4294967295 ∧ parsed (format 4294967295) = .ok 4294967295 ∧
      "0004294967295".toList.dropWhile (· = '0') = (format 4294967295).toList.dropWhile (· = '0') ∧
      (∃ message, parsed "4294967296" = .error ⟨.invalidArgument, message⟩) ∧
      ∃ message, parsed "+3" = .error ⟨.invalidArgument, message⟩ := by
  intro parsed
  obtain ⟨accepted, refused, formatted, same⟩ := parse_exact .bits32 "version_handle"
  have zeros : parsed "0004294967295" = .ok 4294967295 :=
    (accepted _ _).mpr ⟨writes_iff.mpr ⟨List.all_eq_true.mp (by decide), by decide +kernel⟩, by decide⟩
  have plain : parsed (format 4294967295) = .ok 4294967295 := formatted 4294967295 (by decide)
  refine ⟨zeros, plain, (same _ _ _ _ (by decide) (by decide) zeros plain).mp rfl, ⟨_, refused "4294967296" ?_⟩,
    ⟨_, refused "+3" ?_⟩⟩
  · rintro ⟨position, written, fits⟩
    obtain ⟨-, rfl⟩ := writes_iff.mp written
    exact absurd fits (by decide +kernel)
  · rintro ⟨position, written, fits⟩
    exact absurd ((writes_iff.mp written).1 '+' (by decide)) (by decide)

end ModelVault.Handle
