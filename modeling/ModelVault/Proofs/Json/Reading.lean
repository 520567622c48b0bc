import ModelVault.UserData

/-!
What the compact writer of JSON writes, the reader takes back: literals, objects of texts, and with
them the stored form of user data.
-/

namespace ModelVault.Json

private theorem readLiteral_short (read : List Char) {letter c : Char} (rest : List Char)
    (notNumber : letter ≠ 'u') (escape : shortEscape? letter = some c) :
    readLiteral read ('\\' :: letter :: rest) = readLiteral (c :: read) rest := by
  rw [readLiteral, escape]
  intro _ _ _ _ _ same
  exact absurd same notNumber

private theorem readLiteral_number (read : List Char) {c : Char} (rest : List Char)
    (small : c.toNat < 32) :
    readLiteral read ('\\' :: 'u' :: '0' :: '0' :: Nat.digitChar (c.toNat / 16) ::
      Nat.digitChar (c.toNat % 16) :: rest) = readLiteral (c :: read) rest := by
  have digit : ∀ value : Fin 16, Text.hexValue? (Nat.digitChar value) = some value.val := by decide
  have zero : Text.hexValue? '0' = some 0 := by decide
  have high := digit ⟨c.toNat / 16, by omega⟩
  have low := digit ⟨c.toNat % 16, by omega⟩
  have unit : hexValue4? '0' '0' (Nat.digitChar (c.toNat / 16)) (Nat.digitChar (c.toNat % 16)) =
      some c.toNat := by
    simp only [hexValue4?, zero, high, low, Option.bind_eq_bind, Option.bind_some, Option.pure_def]
    congr 1
    omega
  have below : c.toNat < 55296 := by omega
  rw [readLiteral, unit]
  simp [below, Char.ofNat_toNat]

private theorem readLiteral_literalChar (read : List Char) (c : Char) (rest : List Char) :
    readLiteral read (literalChar c ++ rest) = readLiteral (c :: read) rest := by
  unfold literalChar
  split
  · next same => subst same; exact readLiteral_short read rest (by decide) (by decide)
  split
  · next same => subst same; exact readLiteral_short read rest (by decide) (by decide)
  split
  · next same => subst same; exact readLiteral_short read rest (by decide) (by decide)
  split
  · next same => subst same; exact readLiteral_short read rest (by decide) (by decide)
  split
  · next same => subst same; exact readLiteral_short read rest (by decide) (by decide)
  split
  · next same => subst same; exact readLiteral_short read rest (by decide) (by decide)
  split
  · next same => subst same; exact readLiteral_short read rest (by decide) (by decide)
  split
  · next small => exact readLiteral_number read rest small
  · next quote backslash _ _ _ _ _ large =>
    rw [List.cons_append, List.nil_append, readLiteral, if_neg (not_or.mpr ⟨backslash, large⟩)]
    · exact quote
    · intro _ _ _ _ _ same
      exact absurd same backslash
    · intro _ _ same
      exact absurd same backslash

theorem readLiteral_flatMap (read text rest : List Char) :
    readLiteral read (text.flatMap literalChar ++ '"' :: rest) =
      some (String.ofList (read.reverse ++ text), rest) := by
  induction text generalizing read with
  | nil => simp [readLiteral]
  | cons c text ih =>
    rw [List.flatMap_cons, List.append_assoc, readLiteral_literalChar, ih]
    simp

def textMember (entry : String × String) : String × Json :=
  (entry.1, .string entry.2)

private theorem skipBlanks_cons {c : Char} (rest : List Char) (visible : isBlank c = false) :
    skipBlanks (c :: rest) = c :: rest := by
  simp [skipBlanks, visible]

private theorem readLiteral_literal (text : String) (rest : List Char) :
    readLiteral [] (text.toList.flatMap literalChar ++ '"' :: rest) = some (text, rest) := by
  simp [readLiteral_flatMap]

private theorem readValue_literal (bound : Nat) (text : String) (rest : List Char) :
    readValue (bound + 1) (literalChars text ++ rest) = some (.string text, rest) := by
  rw [literalChars, List.append_assoc, List.cons_append, List.singleton_append, readValue,
    skipBlanks_cons _ (by decide)]
  simp [readLiteral_literal]

private theorem readMembers_last (bound : Nat) (before : List (String × Json)) (entry : String × String)
    (rest : List Char) :
    readMembers (bound + 2) before (compactMembers [textMember entry] ++ '\x7d' :: rest) =
      some (.object (before.reverse ++ [textMember entry]), rest) := by
  simp only [compactMembers, textMember, compactChars, scalarChars]
  rw [readMembers, literalChars]
  simp only [List.append_assoc, List.cons_append, List.nil_append]
  rw [skipBlanks_cons _ (by decide)]
  simp only [readLiteral_literal, skipBlanks_cons (c := ':') _ (by decide), readValue_literal,
    skipBlanks_cons (c := '\x7d') _ (by decide), List.reverse_cons]

private theorem readMembers_next (bound : Nat) (before : List (String × Json))
    (entry next : String × String) (entries : List (String × String)) (rest : List Char) :
    readMembers (bound + 2) before
        (compactMembers ((entry :: next :: entries).map textMember) ++ '\x7d' :: rest) =
      readMembers (bound + 1) (textMember entry :: before)
        (compactMembers ((next :: entries).map textMember) ++ '\x7d' :: rest) := by
  simp only [List.map_cons]
  rw [compactMembers.eq_def]
  simp only [textMember, compactChars, scalarChars]
  rw [readMembers, literalChars]
  simp only [List.append_assoc, List.cons_append, List.nil_append]
  rw [skipBlanks_cons _ (by decide)]
  simp only [readLiteral_literal, skipBlanks_cons (c := ':') _ (by decide), readValue_literal,
    skipBlanks_cons (c := ',') _ (by decide)]

private theorem readMembers_compactMembers (entry : String × String) (entries : List (String × String))
    (before : List (String × Json)) (bound : Nat) (rest : List Char) :
    readMembers (bound + entries.length + 2) before
        (compactMembers ((entry :: entries).map textMember) ++ '\x7d' :: rest) =
      some (.object (before.reverse ++ (entry :: entries).map textMember), rest) := by
  induction entries generalizing entry before with
  | nil => exact readMembers_last bound before entry rest
  | cons next entries ih =>
    have same : bound + (next :: entries).length + 2 = (bound + entries.length + 1) + 2 := by
      simp only [List.length_cons]
      omega
    rw [same, readMembers_next, ih]
    simp

private theorem length_le_compactMembers (entries : List (String × String)) :
    entries.length ≤ (compactMembers (entries.map textMember)).length := by
  induction entries with
  | nil => simp
  | cons entry entries ih =>
    cases entries with
    | nil => simp [compactMembers, literalChars]
    | cons next entries =>
      simp only [List.map_cons, List.length_cons] at ih ⊢
      rw [compactMembers.eq_def]
      simp only [textMember, List.length_append, List.length_cons] at ih ⊢
      omega

private theorem compactMembers_quote (entry : String × String) (entries : List (String × String)) :
    ∃ tail, compactMembers ((entry :: entries).map textMember) = '"' :: tail := by
  cases entries with
  | nil => exact ⟨_, rfl⟩
  | cons next entries => exact ⟨_, rfl⟩

theorem read?_compact (entries : List (String × String)) :
    read? (compact (.object (entries.map textMember))) = some (.object (entries.map textMember)) := by
  unfold read? compact
  rw [String.toList_ofList, String.length_ofList, compactChars]
  cases entries with
  | nil =>
    rw [readValue, List.cons_append, skipBlanks_cons _ (by decide)]
    simp [compactMembers, skipBlanks_cons (c := '\x7d') _ (by decide)]
  | cons entry entries =>
    obtain ⟨tail, quote⟩ := compactMembers_quote entry entries
    have counted := length_le_compactMembers (entry :: entries)
    have enough : entries.length + 3 ≤ 2 * ('\x7b' :: compactMembers ((entry :: entries).map textMember) ++
        ['\x7d']).length + 2 := by
      simp only [List.length_append, List.length_cons, List.length_nil] at counted ⊢
      omega
    obtain ⟨bound, same⟩ := Nat.exists_eq_add_of_le' enough
    have members := readMembers_compactMembers entry entries [] bound []
    rw [same, ← Nat.add_assoc, readValue, List.cons_append, skipBlanks_cons _ (by decide)]
    -- The reader looks for an empty object first, so it has to see that a member begins here.
    rw [quote] at members ⊢
    simp only [List.cons_append, skipBlanks_cons (c := '"') _ (by decide)]
    rw [List.cons_append] at members
    simp [members]

end ModelVault.Json

namespace ModelVault.UserData

private theorem pairs?_textMember (entries : List (String × String)) :
    pairs? (entries.map Json.textMember) = some entries := by
  induction entries with
  | nil => rfl
  | cons entry entries ih =>
    rw [List.map_cons, Json.textMember, pairs?, ih]
    rfl

/-- Stored user data reads back. -/
@[simp] theorem read?_write (entries : UserData) : read? entries.write = some entries := by
  have members : entries.toJson = .object (entries.toPairs.map Json.textMember) := rfl
  rw [read?, write, members, Json.read?_compact]
  simp only [pairs?_textMember, Option.map_some, ofPairs_of_perm (List.Perm.refl _)]

end ModelVault.UserData
