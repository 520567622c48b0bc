import ModelVault.Wire.Field

/-!
The messages of the registry and their encoding. A message is decoded by taking its records, one after
the other, into the blank message, so a repeated value replaces, extends or merges as its field tells.
-/

namespace ModelVault.Wire

/-- A type of messages. -/
class Message (M : Type) where
  /-- The message without any value. -/
  blank : M
  /-- The fields that hold entries of user data. -/
  isEntryField : Nat → Bool
  /-- The records of a message in the order of its fields. -/
  records : M → List Record
  /-- Take in a record. `depth` more messages and groups may be opened; fields without a meaning are
  passed over. -/
  absorb (depth : Nat) (message : M) (record : Record) : Option M

/-- How many messages and groups may lie in one another. -/
def nestingLimit : Nat := 100

namespace Message

variable {M : Type} [Message M]

def encode (message : M) : Bytes :=
  writeRecords (records message)

/-- How many octets a message takes. -/
def size (message : M) : Nat :=
  recordsSize (records message)

/-- Take the records of an encoded message into another of its type. -/
def merge (depth : Nat) (message : M) (bytes : Bytes) : Option M := do
  (← readRecords depth (isEntryField M) bytes).foldlM (absorb depth) message

/-- The message that these octets encode. -/
def decode? (bytes : Bytes) : Option M :=
  merge nestingLimit blank bytes

theorem length_encode (message : M) : (encode message).length = size message :=
  length_writeRecords _

end Message

/-- A message within a message, written even when it is blank. -/
def messageField {M : Type} [Message M] (field : Nat) (message : M) : List Record :=
  [⟨field, .bytes (Message.encode message)⟩]

/-- A message within a message, where one is present. -/
def optionalField {M : Type} [Message M] (field : Nat) (message : Option M) : List Record :=
  match message with
  | some message => messageField field message
  | none => []

/-- Take an inner message into the one that is there already. -/
def Payload.mergeInto {M : Type} [Message M] (depth : Nat) (message : M) (payload : Payload) : Option M :=
  payload.bytes? >>= Message.merge (depth - 1) message

/-- A model as clients see it. -/
structure ModelEntry where
  modelId : String
  userData : UserData
  deriving DecidableEq

/-- A version as clients see it. Times count nanoseconds since 1970, and zero means none given. -/
structure VersionEntry where
  modelId : String
  number : UInt32
  createdAt : UInt64
  archived : Bool
  hash : String
  size : UInt64
  userData : UserData
  deriving DecidableEq

/-- The message without a field, which only says that a request was carried out. -/
structure Acknowledgement where
  deriving DecidableEq

/-- Create a model, or replace its user data. -/
structure PutModelRequest where
  model : Option ModelEntry
  deriving DecidableEq

/-- Delete a model with all its versions. -/
structure DeleteModelRequest where
  modelId : String
  deriving DecidableEq

/-- Ask for a page of the models with these identifiers, or of all models. -/
structure ModelsRequest where
  modelIds : List String
  count : UInt32
  handle : String
  deriving DecidableEq

/-- A page of models and the handle of the next one. -/
structure ModelsReply where
  models : List ModelEntry
  next : String
  deriving DecidableEq

/-- One message of an upload: the header, which comes first, or a piece of the data, or neither. -/
inductive UploadPart where
  | header (version : Option VersionEntry)
  | body (data : Bytes)
  | neither
  deriving DecidableEq

/-- The version that an upload has stored. -/
structure UploadReply where
  version : Option VersionEntry
  deriving DecidableEq

/-- Ask for a page of the versions with these numbers, or of all versions of a model. -/
structure VersionsRequest where
  modelId : String
  numbers : List UInt32
  count : UInt32
  handle : String
  deriving DecidableEq

/-- A page of versions and the handle of the next one. -/
structure VersionsReply where
  versions : List VersionEntry
  next : String
  deriving DecidableEq

/-- Ask for the data of a version. -/
structure DownloadRequest where
  modelId : String
  number : UInt32
  deriving DecidableEq

/-- A piece of the data of a version. -/
structure DownloadPart where
  data : Bytes
  deriving DecidableEq

instance : Message ModelEntry where
  blank := ⟨"", ∅⟩
  isEntryField field := field = 2
  records entry := textField 1 entry.modelId ++ entriesField 2 entry.userData.toPairs
  absorb depth entry record :=
    match record.field with
    | 1 => record.payload.text?.map ({ entry with modelId := · })
    | 2 => (record.payload.entry? (depth - 1)).map fun (key, value) =>
      { entry with userData := entry.userData.insert key value }
    | _ => some entry

instance : Message VersionEntry where
  blank := ⟨"", 0, 0, false, "", 0, ∅⟩
  isEntryField field := field = 7
  records entry :=
    textField 1 entry.modelId ++ numberField 2 entry.number ++ fixedField 3 entry.createdAt ++
      flagField 4 entry.archived ++ textField 5 entry.hash ++ fixedField 6 entry.size ++
      entriesField 7 entry.userData.toPairs
  absorb depth entry record :=
    match record.field with
    | 1 => record.payload.text?.map ({ entry with modelId := · })
    | 2 => record.payload.number?.map ({ entry with number := · })
    | 3 => record.payload.fixed?.map ({ entry with createdAt := · })
    | 4 => record.payload.flag?.map ({ entry with archived := · })
    | 5 => record.payload.text?.map ({ entry with hash := · })
    | 6 => record.payload.fixed?.map ({ entry with size := · })
    | 7 => (record.payload.entry? (depth - 1)).map fun (key, value) =>
      { entry with userData := entry.userData.insert key value }
    | _ => some entry

instance : Message Acknowledgement where
  blank := {}
  isEntryField _ := false
  records _ := []
  absorb _ message _ := some message

instance : Message PutModelRequest where
  blank := ⟨none⟩
  isEntryField _ := false
  records request := optionalField 1 request.model
  absorb depth request record :=
    match record.field with
    | 1 => (record.payload.mergeInto depth (request.model.getD Message.blank)).map (⟨some ·⟩)
    | _ => some request

instance : Message DeleteModelRequest where
  blank := ⟨""⟩
  isEntryField _ := false
  records request := textField 1 request.modelId
  absorb _ request record :=
    match record.field with
    | 1 => record.payload.text?.map (⟨·⟩)
    | _ => some request

instance : Message ModelsRequest where
  blank := ⟨[], 0, ""⟩
  isEntryField _ := false
  records request :=
    textsField 1 request.modelIds ++ numberField 2 request.count ++ textField 3 request.handle
  absorb _ request record :=
    match record.field with
    | 1 => record.payload.text?.map fun text => { request with modelIds := request.modelIds ++ [text] }
    | 2 => record.payload.number?.map ({ request with count := · })
    | 3 => record.payload.text?.map ({ request with handle := · })
    | _ => some request

instance : Message ModelsReply where
  blank := ⟨[], ""⟩
  isEntryField _ := false
  records reply := reply.models.flatMap (messageField 1) ++ textField 2 reply.next
  absorb depth reply record :=
    match record.field with
    | 1 => (record.payload.mergeInto depth Message.blank).map fun model =>
      { reply with models := reply.models ++ [model] }
    | 2 => record.payload.text?.map ({ reply with next := · })
    | _ => some reply

/-- The one field of an upload's header. -/
structure UploadHeader where
  version : Option VersionEntry

instance : Message UploadHeader where
  blank := ⟨none⟩
  isEntryField _ := false
  records header := optionalField 1 header.version
  absorb depth header record :=
    match record.field with
    | 1 => (record.payload.mergeInto depth (header.version.getD Message.blank)).map (⟨some ·⟩)
    | _ => some header

instance : Message DownloadPart where
  blank := ⟨[]⟩
  isEntryField _ := false
  records part := bytesField 1 part.data
  absorb _ part record :=
    match record.field with
    | 1 => record.payload.bytes?.map (⟨·⟩)
    | _ => some part

/-- The header that an upload's message holds, or the blank one. -/
def UploadPart.headerOrBlank : UploadPart → UploadHeader
  | header version => ⟨version⟩
  | _ => Message.blank

/-- The piece of data that an upload's message holds, or none. -/
def UploadPart.bodyOrBlank : UploadPart → DownloadPart
  | body data => ⟨data⟩
  | _ => Message.blank

instance : Message UploadPart where
  blank := .neither
  isEntryField _ := false
  records
    | .header version => messageField 1 (UploadHeader.mk version)
    | .body data => messageField 2 (DownloadPart.mk data)
    | .neither => []
  absorb depth part record :=
    match record.field with
    | 1 => (record.payload.mergeInto depth part.headerOrBlank).map fun header => .header header.version
    | 2 => (record.payload.mergeInto depth part.bodyOrBlank).map fun piece => .body piece.data
    | _ => some part

instance : Message UploadReply where
  blank := ⟨none⟩
  isEntryField _ := false
  records reply := optionalField 1 reply.version
  absorb depth reply record :=
    match record.field with
    | 1 => (record.payload.mergeInto depth (reply.version.getD Message.blank)).map (⟨some ·⟩)
    | _ => some reply

instance : Message VersionsRequest where
  blank := ⟨"", [], 0, ""⟩
  isEntryField _ := false
  records request :=
    textField 1 request.modelId ++ numbersField 2 request.numbers ++ numberField 3 request.count ++
      textField 4 request.handle
  absorb _ request record :=
    match record.field with
    | 1 => record.payload.text?.map ({ request with modelId := · })
    | 2 => record.payload.numbers?.map fun numbers =>
      { request with numbers := request.numbers ++ numbers }
    | 3 => record.payload.number?.map ({ request with count := · })
    | 4 => record.payload.text?.map ({ request with handle := · })
    | _ => some request

instance : Message VersionsReply where
  blank := ⟨[], ""⟩
  isEntryField _ := false
  records reply := reply.versions.flatMap (messageField 1) ++ textField 2 reply.next
  absorb depth reply record :=
    match record.field with
    | 1 => (record.payload.mergeInto depth Message.blank).map fun version =>
      { reply with versions := reply.versions ++ [version] }
    | 2 => record.payload.text?.map ({ reply with next := · })
    | _ => some reply

instance : Message DownloadRequest where
  blank := ⟨"", 0⟩
  isEntryField _ := false
  records request := textField 1 request.modelId ++ numberField 2 request.number
  absorb _ request record :=
    match record.field with
    | 1 => record.payload.text?.map ({ request with modelId := · })
    | 2 => record.payload.number?.map ({ request with number := · })
    | _ => some request

end ModelVault.Wire
