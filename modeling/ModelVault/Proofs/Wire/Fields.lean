import ModelVault.Proofs.Wire.Records
import ModelVault.Wire.Message

/-!
What the records of a field do to the message that takes them in. Every kind of field has one lemma, which
asks of a type of messages only how it takes in a record of that field.
-/

namespace ModelVault.Wire

theorem recordsSize_append (records others : List Record) :
    recordsSize (records ++ others) = recordsSize records + recordsSize others := by
  rw [← length_writeRecords, ← length_writeRecords, ← length_writeRecords, writeRecords, List.flatMap_append,
    List.length_append]
  rfl

theorem recordsSize_perm {records others : List Record} (order : records.Perm others) :
    recordsSize records = recordsSize others := by
  rw [← length_writeRecords, ← length_writeRecords]
  exact (order.flatMap_right _).length_eq

/-- Records that a reader finds again and that take one message to another, in whatever messages these lie,
unless there are more octets than a length can tell. -/
structure Carries {M : Type} [Message M] (start : M) (records : List Record) (result : M) : Prop where
  readable : ∀ record ∈ records, record.Readable (Message.isEntryField M)
  absorbed : recordsSize records < UInt64.size →
    ∀ depth, records.foldlM (Message.absorb depth) start = some result

namespace Carries

variable {M : Type} [Message M] {start : M}

theorem nil : Carries start [] start where
  readable _ member := absurd member List.not_mem_nil
  absorbed _ _ := rfl

theorem append {middle result : M} {records others : List Record} (first : Carries start records middle)
    (second : Carries middle others result) : Carries start (records ++ others) result where
  readable record member := (List.mem_append.mp member).elim (first.readable record) (second.readable record)
  absorbed bound depth := by
    rw [recordsSize_append] at bound
    rw [List.foldlM_append, first.absorbed (by omega) depth]
    exact second.absorbed (by omega) depth

theorem single {result : M} {record : Record} (readable : record.Readable (Message.isEntryField M))
    (absorbed : record.size < UInt64.size → ∀ depth, Message.absorb depth start record = some result) :
    Carries start [record] result where
  readable _ member := List.mem_singleton.mp member ▸ readable
  absorbed bound depth := by
    rw [List.foldlM_cons, absorbed bound depth]
    rfl

/-- What the records carry into a message is read from their octets. -/
theorem merge {result : M} {records : List Record} (carries : Carries start records result)
    (bound : recordsSize records < UInt64.size) (depth : Nat) :
    Message.merge depth start (writeRecords records) = some result := by
  rw [Message.merge, readRecords_writeRecords carries.readable bound]
  exact carries.absorbed bound depth

theorem readable_bytes {field : Nat} (inside : 1 ≤ field ∧ field < 536870912) (content : Bytes) :
    (Record.mk field (.bytes content)).Readable (Message.isEntryField M) :=
  ⟨inside, trivial, fun _ => rfl⟩

theorem readable_varint {field number : Nat} (inside : 1 ≤ field ∧ field < 536870912)
    (plain : Message.isEntryField M field = false) (bound : number < UInt64.size) :
    (Record.mk field (.varint number)).Readable (Message.isEntryField M) :=
  ⟨inside, bound, fun entry => absurd (plain.symm.trans entry) Bool.false_ne_true⟩

section Scalars

variable (field : Nat) (inside : 1 ≤ field ∧ field < 536870912)
include inside

theorem text (set : String → M)
    (takes : ∀ depth payload, Message.absorb depth (set "") ⟨field, payload⟩ = payload.text?.map set)
    (text : String) :
    Carries (set "") (textField field text) (set text) := by
  rw [textField]
  split
  · next empty => exact empty ▸ nil
  · refine single (readable_bytes inside _) fun _ depth => ?_
    rw [takes, Payload.text?, Bytes.text?_ofText, Option.map_some]

theorem octets (set : Bytes → M)
    (takes : ∀ depth payload, Message.absorb depth (set []) ⟨field, payload⟩ = payload.bytes?.map set)
    (content : Bytes) :
    Carries (set []) (bytesField field content) (set content) := by
  rw [bytesField]
  split
  · next empty => exact List.isEmpty_iff.mp empty ▸ nil
  · refine single (readable_bytes inside _) fun _ depth => ?_
    rw [takes, Payload.bytes?, Option.map_some]

variable (plain : Message.isEntryField M field = false)
include plain

theorem number (set : UInt32 → M)
    (takes : ∀ depth payload, Message.absorb depth (set 0) ⟨field, payload⟩ = payload.number?.map set)
    (number : UInt32) : Carries (set 0) (numberField field number) (set number) := by
  rw [numberField]
  split
  · next zero => exact zero ▸ nil
  · have bound : number.toNat < UInt64.size := Nat.lt_trans number.toNat_lt (by decide)
    refine single (readable_varint inside plain bound) fun _ depth => ?_
    rw [takes, Payload.number?, UInt32.ofNat_toNat, Option.map_some]

/-- A number of a fixed width is carried over, also zero, which is not written. -/
theorem fixed (set : UInt64 → M)
    (takes : ∀ depth payload, Message.absorb depth (set 0) ⟨field, payload⟩ = payload.fixed?.map set)
    (number : UInt64) : Carries (set 0) (fixedField field number) (set number) := by
  rw [fixedField]
  split
  · next zero => exact zero ▸ nil
  · refine single ⟨inside, number.toNat_lt, fun entry => absurd (plain.symm.trans entry) Bool.false_ne_true⟩
      fun _ depth => ?_
    rw [takes, Payload.fixed?, UInt64.ofNat_toNat, Option.map_some]

theorem flag (set : Bool → M)
    (takes : ∀ depth payload, Message.absorb depth (set false) ⟨field, payload⟩ = payload.flag?.map set)
    (flag : Bool) :
    Carries (set false) (flagField field flag) (set flag) := by
  cases flag with
  | false => exact nil
  | true =>
    refine single (readable_varint inside plain (by decide)) fun _ depth => ?_
    rw [takes]
    rfl

end Scalars

section Repeated

variable (field : Nat) (inside : 1 ≤ field ∧ field < 536870912)
include inside

theorem texts (extend : List String → M)
    (takes : ∀ depth texts payload, Message.absorb depth (extend texts) ⟨field, payload⟩ =
      payload.text?.map fun text => extend (texts ++ [text])) (before texts : List String) :
    Carries (extend before) (textsField field texts) (extend (before ++ texts)) := by
  induction texts generalizing before with
  | nil => exact (List.append_nil before).symm ▸ nil
  | cons text texts ih =>
    have first : Carries (extend before) [⟨field, .bytes (Bytes.ofText text)⟩] (extend (before ++ [text])) := by
      refine single (readable_bytes inside _) fun _ depth => ?_
      rw [takes, Payload.text?, Bytes.text?_ofText, Option.map_some]
    have others := ih (before ++ [text])
    rw [List.append_assoc, List.singleton_append] at others
    exact first.append others

theorem numbers (set : List UInt32 → M)
    (takes : ∀ depth payload, Message.absorb depth (set []) ⟨field, payload⟩ = payload.numbers?.map set)
    (numbers : List UInt32) : Carries (set []) (numbersField field numbers) (set numbers) := by
  rw [numbersField]
  split
  · next empty => exact List.isEmpty_iff.mp empty ▸ nil
  · have packed : (numbers.flatMap fun number => Varint.write number.toNat) =
        (numbers.map UInt32.toNat).flatMap Varint.write := by
      rw [List.flatMap_map]
    have bound : ∀ number ∈ numbers.map UInt32.toNat, number < UInt64.size := by
      intro number member
      obtain ⟨short, _, rfl⟩ := List.mem_map.mp member
      exact Nat.lt_trans short.toNat_lt (by decide)
    have same : (numbers.map UInt32.toNat).map UInt32.ofNat = numbers := by
      rw [List.map_map]
      exact List.map_id'' (fun _ => UInt32.ofNat_toNat) numbers
    refine single (readable_bytes inside _) fun _ depth => ?_
    rw [takes, Payload.numbers?, packed, Varint.readAll_flatMap_write bound, Option.map_some, Option.map_some, same]

end Repeated

end Carries

/-- An entry of user data is a message of two texts. -/
instance : Message (String × String) where
  blank := ("", "")
  isEntryField _ := false
  records entry := textField 1 entry.1 ++ textField 2 entry.2
  absorb _ := absorbEntry

private theorem carries_entry (key value : String) :
    Carries ("", "") (textField 1 key ++ textField 2 value) (key, value) := by
  have first := Carries.text 1 (by decide) (fun key => (key, "")) (fun _ _ => rfl) key
  exact first.append (Carries.text 2 (by decide) (fun value => (key, value)) (fun _ _ => rfl) value)

/-- An entry of user data reads back, also one whose key or value is empty and not written. -/
theorem Payload.entry?_writeEntry {key value : String} (bound : (writeEntry key value).length < UInt64.size)
    (depth : Nat) : Payload.entry? depth (.bytes (writeEntry key value)) = some (key, value) := by
  rw [writeEntry, length_writeRecords] at bound
  exact (carries_entry key value).merge bound depth

namespace Carries

variable {M : Type} [Message M] {start : M} (field : Nat) (inside : 1 ≤ field ∧ field < 536870912)
include inside

theorem entries (set : UserData → M)
    (takes : ∀ depth entries payload, Message.absorb depth (set entries) ⟨field, payload⟩ =
      (payload.entry? (depth - 1)).map fun (key, value) => set (entries.insert key value))
    {pairs : List (String × String)} {entries : UserData} (order : pairs.Perm entries.toPairs) :
    Carries (set ∅) (entriesField field pairs) (set entries) := by
  suffices all : ∀ before : UserData, Carries (set before) (entriesField field pairs)
      (set (pairs.foldl (fun entries (key, value) => entries.insert key value) before)) by
    have listed := all ∅
    rwa [← UserData.ofPairs, UserData.ofPairs_of_perm order] at listed
  clear order
  induction pairs with
  | nil => exact fun _ => nil
  | cons pair pairs ih =>
    intro before
    have first : Carries (set before) [⟨field, .bytes (writeEntry pair.1 pair.2)⟩]
        (set (before.insert pair.1 pair.2)) := by
      refine single (readable_bytes inside _) fun bound depth => ?_
      have small : (writeEntry pair.1 pair.2).length < UInt64.size := by
        simp only [Record.size, Payload.size] at bound
        omega
      rw [takes, Payload.entry?_writeEntry small, Option.map_some]
    exact first.append (ih _)

variable {N : Type} [Message N]

theorem message {before inner : N} {records : List Record} (set : N → M) (carries : Carries before records inner)
    (takes : ∀ depth payload, Message.absorb depth start ⟨field, payload⟩ =
      (payload.mergeInto depth before).map set) :
    Carries start [⟨field, .bytes (writeRecords records)⟩] (set inner) := by
  refine single (readable_bytes inside _) fun bound depth => ?_
  have small : recordsSize records < UInt64.size := by
    simp only [Record.size, Payload.size, length_writeRecords] at bound
    omega
  rw [takes, Payload.mergeInto, Payload.bytes?, Option.bind_eq_bind, Option.bind_some, carries.merge small,
    Option.map_some]

end Carries

end ModelVault.Wire
