import ModelVault.UserData
import ModelVault.Wire.Record

/-!
Fields of messages: the records that write a value, and the values that records carry. A value equal
to its field's default is not written.
-/

namespace ModelVault.Wire

def textField (field : Nat) (text : String) : List Record :=
  if text = "" then [] else [⟨field, .bytes (Bytes.ofText text)⟩]

/-- Octets, unless there are none. -/
def bytesField (field : Nat) (content : Bytes) : List Record :=
  if content.isEmpty then [] else [⟨field, .bytes content⟩]

/-- A 32-bit number other than zero. -/
def numberField (field : Nat) (number : UInt32) : List Record :=
  if number = 0 then [] else [⟨field, .varint number.toNat⟩]

/-- A 64-bit number other than zero, at a fixed width. -/
def fixedField (field : Nat) (number : UInt64) : List Record :=
  if number = 0 then [] else [⟨field, .fixed64 number.toNat⟩]

def flagField (field : Nat) (flag : Bool) : List Record :=
  if flag then [⟨field, .varint 1⟩] else []

/-- Texts, each in a record of its own, empty ones too. -/
def textsField (field : Nat) (texts : List String) : List Record :=
  texts.map fun text => ⟨field, .bytes (Bytes.ofText text)⟩

/-- 32-bit numbers packed into one record, unless there are none. -/
def numbersField (field : Nat) (numbers : List UInt32) : List Record :=
  if numbers.isEmpty then []
  else [⟨field, .bytes (numbers.flatMap fun number => Varint.write number.toNat)⟩]

/-- The octets of one entry of user data: its key and its value as a message of two fields. -/
def writeEntry (key value : String) : Bytes :=
  writeRecords (textField 1 key ++ textField 2 value)

/-- Entries of user data, each in a record of its own. -/
def entriesField (field : Nat) (entries : List (String × String)) : List Record :=
  entries.map fun (key, value) => ⟨field, .bytes (writeEntry key value)⟩

def Payload.text? : Payload → Option String
  | bytes content => content.text?
  | _ => none

def Payload.bytes? : Payload → Option Bytes
  | bytes content => some content
  | _ => none

def Payload.number? : Payload → Option UInt32
  | varint number => some (UInt32.ofNat number)
  | _ => none

def Payload.fixed? : Payload → Option UInt64
  | fixed64 number => some (UInt64.ofNat number)
  | _ => none

/-- A flag, set by every number but zero. -/
def Payload.flag? : Payload → Option Bool
  | varint number => some (number ≠ 0)
  | _ => none

/-- Numbers packed into one record, or a single one. -/
def Payload.numbers? : Payload → Option (List UInt32)
  | bytes content => (Varint.readAll content).map (·.map UInt32.ofNat)
  | varint number => some [UInt32.ofNat number]
  | _ => none

/-- Take one record of an entry into its key and value; the last of each counts. -/
def absorbEntry (entry : String × String) (record : Record) : Option (String × String) :=
  if record.field = 1 then record.payload.text?.map fun key => (key, entry.2)
  else if record.field = 2 then record.payload.text?.map fun value => (entry.1, value)
  else some entry

/-- The key and value of an entry that `depth` messages may lie in. -/
def Payload.entry? (depth : Nat) (payload : Payload) : Option (String × String) := do
  let records ← readRecords depth (fun _ => false) (← payload.bytes?)
  records.foldlM absorbEntry ("", "")

end ModelVault.Wire
