import Mathlib.Algebra.Group.Nat.Defs
import ModelVault.Wire.Record

/-!
What is written as records reads back: numbers, payloads and whole sequences of records, whatever octets
follow them.
-/

namespace ModelVault.Wire

namespace Varint

theorem exists_write (number : Nat) : ∃ octet rest, write number = octet :: rest := by
  rw [write]
  split
  · exact ⟨_, _, rfl⟩
  · exact ⟨_, _, rfl⟩

private theorem readWithin_write (more : Nat) {number : Nat} (fits : number < 128 ^ (more + 1)) (rest : Bytes) :
    readWithin (more + 1) (write number ++ rest) = some (number, rest) := by
  induction more generalizing number with
  | zero =>
    have small : number < 128 := by simpa using fits
    have octet : (UInt8.ofNat number).toNat = number := UInt8.toNat_ofNat_of_lt' (by simp only [UInt8.size]; omega)
    rw [write, if_pos small, List.singleton_append, readWithin, if_pos, octet]
    rw [UInt8.lt_iff_toNat_lt, octet]
    exact small
  | succ more ih =>
    rw [write]
    split
    · next small =>
      have octet : (UInt8.ofNat number).toNat = number := UInt8.toNat_ofNat_of_lt' (by simp only [UInt8.size]; omega)
      rw [List.singleton_append, readWithin, if_pos, octet]
      rw [UInt8.lt_iff_toNat_lt, octet]
      exact small
    · next large =>
      have octet : (UInt8.ofNat (number % 128 + 128)).toNat = number % 128 + 128 :=
        UInt8.toNat_ofNat_of_lt' (by simp only [UInt8.size]; omega)
      have high : number / 128 < 128 ^ (more + 1) := by
        rw [Nat.pow_succ] at fits
        exact Nat.div_lt_of_lt_mul (by rwa [Nat.mul_comm] at fits)
      rw [List.cons_append, readWithin, if_neg, ih high, Option.map_some, octet]
      · simp only [Option.some.injEq, Prod.mk.injEq, and_true]
        omega
      · rw [UInt8.lt_iff_toNat_lt, octet, Nat.not_lt]
        exact Nat.le_add_left _ _

/-- An unsigned 64-bit number reads back. -/
theorem read_write {number : Nat} (bound : number < UInt64.size) (rest : Bytes) :
    read (write number ++ rest) = some (number, rest) := by
  have fits : number < 128 ^ (9 + 1) := Nat.lt_trans bound (by decide)
  simp only [read, readWithin_write 9 fits, if_pos bound]

theorem readAll_flatMap_write {numbers : List Nat} (bound : ∀ number ∈ numbers, number < UInt64.size) :
    readAll (numbers.flatMap write) = some numbers := by
  rw [readAll]
  generalize enough : (numbers.flatMap write).length = count
  replace enough : (numbers.flatMap write).length ≤ count := Nat.le_of_eq enough
  induction numbers generalizing count with
  | nil => rw [List.flatMap_nil, readAll.go]
  | cons number numbers ih =>
    obtain ⟨octet, rest, written⟩ := exists_write number
    have first := read_write (bound number (List.mem_cons_self ..)) (numbers.flatMap write)
    rw [List.flatMap_cons, written, List.cons_append] at enough ⊢
    rw [written, List.cons_append] at first
    cases count with
    | zero => simp at enough
    | succ count =>
      rw [List.length_cons, List.length_append] at enough
      have others := ih (fun other member => bound other (List.mem_cons_of_mem _ member)) count (by omega)
      simp only [readAll.go, first, others, Option.map_some]

end Varint

/-- A payload that its kind can hold, and that is no group. -/
def Payload.Readable : Payload → Prop
  | varint number => number < UInt64.size
  | fixed64 number => number < UInt64.size
  | bytes _ => True
  | fixed32 number => number < UInt32.size
  | group => False

/-- A record that a reader can find again: a key can hold its field, and a field of entries holds octets. -/
structure Record.Readable (isEntryField : Nat → Bool) (record : Record) : Prop where
  field : 1 ≤ record.field ∧ record.field < 536870912
  payload : record.payload.Readable
  entry : isEntryField record.field = true → record.payload.kind = 2

theorem readOctets_append (content rest : Bytes) :
    readOctets content.length (content ++ rest) = some (content, rest) := by
  rw [readOctets, if_neg, List.take_left, List.drop_left]
  simp

theorem readDelimited_write {content : Bytes} (bound : content.length < UInt64.size) (rest : Bytes) :
    readDelimited (Varint.write content.length ++ content ++ rest) = some (content, rest) := by
  simp only [readDelimited, List.append_assoc, Varint.read_write bound, readOctets_append]

private theorem readOctets_ofNatLittle (width number : Nat) (rest : Bytes) :
    readOctets width (Bytes.ofNatLittle width number ++ rest) = some (Bytes.ofNatLittle width number, rest) := by
  have read := readOctets_append (Bytes.ofNatLittle width number) rest
  rwa [Bytes.length_ofNatLittle] at read

private theorem readPayload_write {payload : Payload} (readable : payload.Readable)
    (bound : payload.size < UInt64.size) (rest : Bytes) :
    readPayload payload.kind (payload.write ++ rest) = some (payload, rest) := by
  cases payload with
  | varint number =>
    rw [readPayload, Payload.kind, if_pos rfl, Payload.write, Varint.read_write readable, Option.map_some]
  | fixed64 number =>
    have same : number % Nat.pow 256 8 = number := Nat.mod_eq_of_lt readable
    rw [readPayload, Payload.kind, if_neg (by decide), if_pos rfl, Payload.write, readOctets_ofNatLittle,
      Option.map_some]
    dsimp only
    rw [Bytes.toNatLittle_ofNatLittle, same]
  | bytes content =>
    have counted : content.length < UInt64.size := Nat.lt_of_le_of_lt (Nat.le_add_left _ _) bound
    rw [readPayload, Payload.kind, if_neg (by decide), if_neg (by decide), if_pos rfl, Payload.write,
      readDelimited_write counted, Option.map_some]
  | fixed32 number =>
    have same : number % Nat.pow 256 4 = number := Nat.mod_eq_of_lt readable
    rw [readPayload, Payload.kind, if_neg (by decide), if_neg (by decide), if_neg (by decide), if_pos rfl,
      Payload.write, readOctets_ofNatLittle, Option.map_some]
    dsimp only
    rw [Bytes.toNatLittle_ofNatLittle, same]
  | group => cases readable

theorem Payload.kind_le_five (payload : Payload) : payload.kind ≤ 5 := by
  cases payload <;> simp [kind]

private theorem readKey_write {field kind : Nat} (inside : 1 ≤ field ∧ field < 536870912) (known : kind ≤ 5)
    (rest : Bytes) : readKey (Varint.write (8 * field + kind) ++ rest) = some (field, kind, rest) := by
  have bound : 8 * field + kind < UInt64.size := by
    simp only [UInt64.size]
    omega
  have parts : 8 * field + kind < UInt32.size ∧ 8 ≤ 8 * field + kind ∧ (8 * field + kind) % 8 ≤ 5 := by
    simp only [UInt32.size]
    omega
  simp only [readKey, Varint.read_write bound, if_pos parts]
  have high : (8 * field + kind) / 8 = field := by omega
  have low : (8 * field + kind) % 8 = kind := by omega
  rw [high, low]

variable {depth : Nat} {isEntryField : Nat → Bool}

private theorem readRecord_write {record : Record} (readable : record.Readable isEntryField)
    (bound : record.size < UInt64.size) (rest : Bytes) :
    readRecord depth isEntryField (record.write ++ rest) = some (record, rest) := by
  obtain ⟨field, payload⟩ := record
  have small : payload.size < UInt64.size := Nat.lt_of_le_of_lt (Nat.le_add_left _ _) bound
  simp only [readRecord, Record.write, List.append_assoc, readKey_write readable.field payload.kind_le_five]
  split
  · next entry =>
    have kind := readable.entry entry
    cases payload with
    | bytes content =>
      have counted : content.length < UInt64.size := Nat.lt_of_le_of_lt (Nat.le_add_left _ _) small
      rw [Payload.write, readDelimited_write counted, Option.map_some]
    | _ => cases kind
  · next plain =>
    have single : payload.kind ≠ 3 := by
      cases payload with
      | group => exact absurd readable.payload id
      | _ => simp [Payload.kind]
    rw [if_neg single, readPayload_write readable.payload small, Option.map_some]

theorem Record.exists_write (record : Record) : ∃ octet rest, record.write = octet :: rest := by
  obtain ⟨octet, rest, written⟩ := Varint.exists_write (8 * record.field + record.payload.kind)
  exact ⟨octet, rest ++ record.payload.write, by rw [Record.write, written, List.cons_append]⟩

/-- Records that can be found again read back, unless there are more octets than a length can tell. -/
theorem readRecords_writeRecords {records : List Record} (readable : ∀ record ∈ records, record.Readable isEntryField)
    (bound : recordsSize records < UInt64.size) :
    readRecords depth isEntryField (writeRecords records) = some records := by
  rw [readRecords]
  generalize enough : (writeRecords records).length = count
  replace enough : (writeRecords records).length ≤ count := Nat.le_of_eq enough
  induction records generalizing count with
  | nil => rw [writeRecords, List.flatMap_nil, readRecords.go]
  | cons record records ih =>
    obtain ⟨octet, rest, written⟩ := record.exists_write
    rw [recordsSize] at bound
    have first : readRecord depth isEntryField (record.write ++ writeRecords records) = _ :=
      readRecord_write (readable record (List.mem_cons_self ..)) (by omega) _
    have split : writeRecords (record :: records) = record.write ++ writeRecords records := List.flatMap_cons
    rw [split, written, List.cons_append] at enough ⊢
    rw [written, List.cons_append] at first
    cases count with
    | zero => simp at enough
    | succ count =>
      rw [List.length_cons, List.length_append] at enough
      have others := ih (fun other member => readable other (List.mem_cons_of_mem _ member)) (by omega) count
        (by omega)
      simp only [readRecords.go, first, others, Option.map_some]

end ModelVault.Wire
