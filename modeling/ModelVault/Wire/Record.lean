import ModelVault.Wire.Varint

/-!
Records, the field values that an encoded message is a sequence of. Each starts with a key, which
holds the field's number and the kind of the payload behind it.
-/

namespace ModelVault.Wire

/-- What stands behind the key of a record. Of a group only its presence counts. -/
inductive Payload where
  | varint (number : Nat)
  | fixed64 (number : Nat)
  | bytes (content : Bytes)
  | fixed32 (number : Nat)
  | group
  deriving DecidableEq

/-- One value of one field. -/
structure Record where
  field : Nat
  payload : Payload
  deriving DecidableEq

/-- The three bits that tell the kind of a payload. -/
def Payload.kind : Payload → Nat
  | varint _ => 0
  | fixed64 _ => 1
  | bytes _ => 2
  | group => 3
  | fixed32 _ => 5

def Payload.write : Payload → Bytes
  | varint number => Varint.write number
  | fixed64 number => Bytes.ofNatLittle 8 number
  | bytes content => Varint.write content.length ++ content
  | fixed32 number => Bytes.ofNatLittle 4 number
  | group => []

/-- How many octets a payload takes. -/
def Payload.size : Payload → Nat
  | varint number => Varint.size number
  | fixed64 _ => 8
  | bytes content => Varint.size content.length + content.length
  | fixed32 _ => 4
  | group => 0

def Record.write (record : Record) : Bytes :=
  Varint.write (8 * record.field + record.payload.kind) ++ record.payload.write

/-- How many octets a record takes. -/
def Record.size (record : Record) : Nat :=
  Varint.size (8 * record.field + record.payload.kind) + record.payload.size

/-- The octets of a sequence of records. -/
def writeRecords (records : List Record) : Bytes :=
  records.flatMap Record.write

/-- How many octets a sequence of records takes. -/
def recordsSize : List Record → Nat
  | [] => 0
  | record :: rest => record.size + recordsSize rest

/-- The first `count` octets and what follows them. -/
def readOctets (count : Nat) (bytes : Bytes) : Option (Bytes × Bytes) :=
  if bytes.length < count then none else some (bytes.take count, bytes.drop count)

/-- A length and as many octets, and what follows them. -/
def readDelimited (bytes : Bytes) : Option (Bytes × Bytes) :=
  match Varint.read bytes with
  | some (count, rest) => readOctets count rest
  | none => none

/-- A key, as the number of the field and the kind of the payload. A key has 32 bits, and no field has
the number zero. -/
def readKey (bytes : Bytes) : Option (Nat × Nat × Bytes) :=
  match Varint.read bytes with
  | some (key, rest) =>
    if key < UInt32.size ∧ 8 ≤ key ∧ key % 8 ≤ 5 then some (key / 8, key % 8, rest) else none
  | none => none

/-- A payload of a kind that is no group's start or end. -/
def readPayload (kind : Nat) (bytes : Bytes) : Option (Payload × Bytes) :=
  if kind = 0 then (Varint.read bytes).map fun (number, rest) => (.varint number, rest)
  else if kind = 1 then
    (readOctets 8 bytes).map fun (octets, rest) => (.fixed64 octets.toNatLittle, rest)
  else if kind = 2 then (readDelimited bytes).map fun (content, rest) => (.bytes content, rest)
  else if kind = 5 then
    (readOctets 4 bytes).map fun (octets, rest) => (.fixed32 octets.toNatLittle, rest)
  else none

/-- What follows a group whose start was read. `opened` holds the fields of the groups not yet ended,
the innermost first, and no record may lie in as many groups as `depth` says. The bound counts keys. -/
def skipGroups (depth : Nat) : Nat → List Nat → Bytes → Option Bytes
  | _, [], bytes => some bytes
  | 0, _ :: _, _ => none
  | bound + 1, innermost :: outer, bytes =>
    match readKey bytes with
    | none => none
    | some (field, kind, rest) =>
      if kind = 4 then
        if field = innermost then skipGroups depth bound outer rest else none
      else if depth ≤ outer.length + 1 then none
      else if kind = 3 then skipGroups depth bound (field :: innermost :: outer) rest
      else
        match readPayload kind rest with
        | some (_, rest) => skipGroups depth bound (innermost :: outer) rest
        | none => none

/-- The first record and what follows it. A field of entries is read as delimited octets whatever kind
its key tells. -/
def readRecord (depth : Nat) (isEntryField : Nat → Bool) (bytes : Bytes) : Option (Record × Bytes) :=
  match readKey bytes with
  | none => none
  | some (field, kind, rest) =>
    if isEntryField field then
      (readDelimited rest).map fun (content, rest) => (⟨field, .bytes content⟩, rest)
    else if kind = 3 then
      (skipGroups depth rest.length [field] rest).map fun rest => (⟨field, .group⟩, rest)
    else (readPayload kind rest).map fun (payload, rest) => (⟨field, payload⟩, rest)

/-- All records of an encoded message, which lies in groups and messages of which `depth` more may be
opened. -/
def readRecords (depth : Nat) (isEntryField : Nat → Bool) (bytes : Bytes) : Option (List Record) :=
  go bytes.length bytes
where
  /-- Each record takes at least one octet, so the length bounds their count. -/
  go : Nat → Bytes → Option (List Record)
    | _, [] => some []
    | 0, _ :: _ => none
    | bound + 1, octet :: rest =>
      match readRecord depth isEntryField (octet :: rest) with
      | some (record, rest) => (go bound rest).map (record :: ·)
      | none => none

theorem Payload.length_write (payload : Payload) : payload.write.length = payload.size := by
  cases payload <;> simp [Payload.write, Payload.size, Varint.length_write]

theorem Record.length_write (record : Record) : record.write.length = record.size := by
  simp [Record.write, Record.size, Varint.length_write, Payload.length_write]

theorem length_writeRecords (records : List Record) :
    (writeRecords records).length = recordsSize records := by
  induction records with
  | nil => rfl
  | cons record rest ih =>
    have tail : (rest.flatMap Record.write).length = recordsSize rest := ih
    rw [writeRecords, List.flatMap_cons, List.length_append, Record.length_write, tail, recordsSize]

end ModelVault.Wire
