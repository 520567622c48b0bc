import Mathlib.Data.List.Forall2
import ModelVault.Proofs.Wire.Fields

/-!
Decoding inverts encoding, for every type of messages and in whatever order the entries of user data are
written. What is absent, what is present and blank, and what holds values are so told apart.
-/

namespace ModelVault.Wire

/-- The records that may write a message. Entries of user data stand in any order, those of the messages
within it too; all other records stand in the order of their fields. -/
class Message.Ordered (M : Type) [Message M] where
  Writes : M → List Record → Prop

open Message Message.Ordered

def WritesEach {M : Type} [Message M] [Ordered M] (field : Nat) (messages : List M) (written : List Record) : Prop :=
  List.Forall₂ (fun message record => ∃ inner, Writes message inner ∧ record = ⟨field, .bytes (writeRecords inner)⟩)
    messages written

/-- What holds of every way of writing a message. -/
class Message.Lawful (M : Type) [Message M] [Ordered M] : Prop where
  writes_records (message : M) : Writes message (records message)
  recordsSize_eq {message : M} {written : List Record} (writes : Writes message written) :
    recordsSize written = size message
  carries {message : M} {written : List Record} (writes : Writes message written) : Carries blank written message

theorem optionalField_eq {M : Type} [Message M] (field : Nat) (message : Option M) :
    optionalField field message = message.toList.flatMap (messageField field) := by
  cases message with
  | none => rfl
  | some message => exact (List.append_nil _).symm

section Nested

variable {M : Type} [Message M] [Ordered M] [Lawful M]

theorem writesEach_messageFields (field : Nat) (messages : List M) :
    WritesEach field messages (messages.flatMap (messageField field)) := by
  induction messages with
  | nil => exact .nil
  | cons message messages ih => exact .cons ⟨_, Lawful.writes_records message, rfl⟩ ih

theorem recordsSize_writesEach {field : Nat} {messages : List M} {written : List Record}
    (writes : WritesEach field messages written) :
    recordsSize written = recordsSize (messages.flatMap (messageField field)) := by
  induction writes with
  | nil => rfl
  | @cons message _ messages _ first _ ih =>
    obtain ⟨inner, writes, rfl⟩ := first
    have same : (writeRecords inner).length = (encode message).length := by
      rw [length_writeRecords, Lawful.recordsSize_eq writes, length_encode]
    rw [List.flatMap_cons, messageField, List.singleton_append, recordsSize, recordsSize, ih]
    simp only [Record.size, Payload.size, Payload.kind, same]

namespace Carries

variable {N : Type} [Message N] (field : Nat) (inside : 1 ≤ field ∧ field < 536870912)
include inside

theorem messages (extend : List M → N)
    (takes : ∀ depth messages payload, absorb depth (extend messages) ⟨field, payload⟩ =
      (payload.mergeInto depth blank).map fun message => extend (messages ++ [message]))
    (before : List M) {messages : List M} {written : List Record} (writes : WritesEach field messages written) :
    Carries (extend before) written (extend (before ++ messages)) := by
  induction writes generalizing before with
  | nil => exact (List.append_nil before).symm ▸ nil
  | @cons message _ _ _ first _ ih =>
    obtain ⟨inner, writes, rfl⟩ := first
    have head := Carries.message field inside (fun message => extend (before ++ [message])) (Lawful.carries writes)
      fun depth payload => takes depth before payload
    have others := ih (before ++ [message])
    rw [List.append_assoc, List.singleton_append] at others
    exact head.append others

/-- A message that may be absent is carried over, also one that is present and blank. -/
theorem optional (set : Option M → N)
    (takes : ∀ depth payload, absorb depth (set none) ⟨field, payload⟩ =
      (payload.mergeInto depth blank).map fun message => set (some message))
    {message : Option M} {written : List Record} (writes : WritesEach field message.toList written) :
    Carries (set none) written (set message) := by
  cases message with
  | none =>
    cases writes
    exact nil
  | some message =>
    obtain _ | ⟨⟨inner, writes, rfl⟩, others⟩ := writes
    cases others
    exact Carries.message field inside (fun message => set (some message)) (Lawful.carries writes) takes

end Carries

end Nested

private theorem lawful_of_fixed {M : Type} [Message M] [Ordered M]
    (fixed : ∀ (message : M) written, Writes message written ↔ written = records message)
    (carries : ∀ message : M, Carries blank (records message) message) : Lawful M where
  writes_records message := (fixed message _).mpr rfl
  recordsSize_eq writes := by rw [(fixed _ _).mp writes]; rfl
  carries writes := by
    rw [(fixed _ _).mp writes]
    exact carries _

private theorem lawful_of_optional {M N : Type} [Message M] [Ordered M] [Message N] [Ordered N] [Lawful N]
    (wrap : Option N → M) (inner : M → Option N) (wraps : ∀ message, wrap (inner message) = message)
    (blanks : blank = wrap none) (fields : ∀ message : M, records message = optionalField 1 (inner message))
    (ordered : ∀ (message : M) written, Writes message written ↔ WritesEach 1 (inner message).toList written)
    (takes : ∀ depth payload, absorb depth (wrap none) ⟨1, payload⟩ =
      (payload.mergeInto depth blank).map fun message => wrap (some message)) : Lawful M where
  writes_records message := by
    rw [ordered, fields, optionalField_eq]
    exact writesEach_messageFields 1 _
  recordsSize_eq writes := by
    rw [recordsSize_writesEach ((ordered _ _).mp writes), ← optionalField_eq, size, fields]
  carries {message _} writes := by
    have carries := Carries.optional 1 (by decide) wrap takes ((ordered _ _).mp writes)
    rwa [wraps, ← blanks] at carries

private theorem lawful_of_page {M N : Type} [Message M] [Ordered M] [Message N] [Ordered N] [Lawful N]
    (page : List N → String → M) (items : M → List N) (next : M → String)
    (pages : ∀ message, page (items message) (next message) = message) (blanks : blank = page [] "")
    (fields : ∀ message : M, records message = (items message).flatMap (messageField 1) ++ textField 2 (next message))
    (ordered : ∀ (message : M) written, Writes message written ↔
      ∃ listed, WritesEach 1 (items message) listed ∧ written = listed ++ textField 2 (next message))
    (takes : ∀ depth items payload, absorb depth (page items "") ⟨1, payload⟩ =
      (payload.mergeInto depth blank).map fun item => page (items ++ [item]) "")
    (takesNext : ∀ depth items payload, absorb depth (page items "") ⟨2, payload⟩ = payload.text?.map (page items)) :
    Lawful M where
  writes_records message := by
    rw [ordered, fields]
    exact ⟨_, writesEach_messageFields 1 _, rfl⟩
  recordsSize_eq writes := by
    obtain ⟨listed, each, rfl⟩ := (ordered _ _).mp writes
    rw [recordsSize_append, recordsSize_writesEach each, ← recordsSize_append, size, fields]
  carries {message _} writes := by
    obtain ⟨listed, each, rfl⟩ := (ordered _ _).mp writes
    have list := Carries.messages 1 (by decide) (page · "") takes [] each
    have all := list.append (Carries.text 2 (by decide) (page (items message)) (fun depth => takesNext depth _)
      (next message))
    rwa [pages, ← blanks] at all

instance : Ordered ModelEntry where
  Writes entry written :=
    ∃ pairs, pairs.Perm entry.userData.toPairs ∧ written = textField 1 entry.modelId ++ entriesField 2 pairs

instance : Lawful ModelEntry where
  writes_records _ := ⟨_, .refl _, rfl⟩
  recordsSize_eq := by
    rintro entry _ ⟨pairs, order, rfl⟩
    exact recordsSize_perm ((order.map _).append_left _)
  carries := by
    rintro ⟨modelId, _⟩ _ ⟨pairs, order, rfl⟩
    have ids := Carries.text 1 (by decide) (fun modelId => ModelEntry.mk modelId ∅) (fun _ _ => rfl) modelId
    exact ids.append (Carries.entries 2 (by decide) (ModelEntry.mk modelId) (fun _ _ _ => rfl) order)

instance : Ordered VersionEntry where
  Writes entry written :=
    ∃ pairs, pairs.Perm entry.userData.toPairs ∧
      written = textField 1 entry.modelId ++ numberField 2 entry.number ++ fixedField 3 entry.createdAt ++
        flagField 4 entry.archived ++ textField 5 entry.hash ++ fixedField 6 entry.size ++ entriesField 7 pairs

instance : Lawful VersionEntry where
  writes_records _ := ⟨_, .refl _, rfl⟩
  recordsSize_eq := by
    rintro entry _ ⟨pairs, order, rfl⟩
    exact recordsSize_perm ((order.map _).append_left _)
  carries := by
    rintro ⟨modelId, number, createdAt, archived, hash, size, _⟩ _ ⟨pairs, order, rfl⟩
    have one := Carries.text 1 (by decide) (VersionEntry.mk · 0 0 false "" 0 ∅) (fun _ _ => rfl) modelId
    have two := one.append
      (Carries.number 2 (by decide) rfl (VersionEntry.mk modelId · 0 false "" 0 ∅) (fun _ _ => rfl) number)
    have three := two.append
      (Carries.fixed 3 (by decide) rfl (VersionEntry.mk modelId number · false "" 0 ∅) (fun _ _ => rfl) createdAt)
    have four := three.append
      (Carries.flag 4 (by decide) rfl (VersionEntry.mk modelId number createdAt · "" 0 ∅) (fun _ _ => rfl) archived)
    have five := four.append
      (Carries.text 5 (by decide) (VersionEntry.mk modelId number createdAt archived · 0 ∅) (fun _ _ => rfl) hash)
    have six := five.append
      (Carries.fixed 6 (by decide) rfl (VersionEntry.mk modelId number createdAt archived hash · ∅) (fun _ _ => rfl)
        size)
    exact six.append
      (Carries.entries 7 (by decide) (VersionEntry.mk modelId number createdAt archived hash size)
        (fun _ _ _ => rfl) order)

instance : Ordered Acknowledgement where
  Writes message written := written = records message

instance : Lawful Acknowledgement :=
  lawful_of_fixed (fun _ _ => Iff.rfl) fun _ => .nil

instance : Ordered PutModelRequest where
  Writes request := WritesEach 1 request.model.toList

instance : Lawful PutModelRequest :=
  lawful_of_optional PutModelRequest.mk PutModelRequest.model (fun _ => rfl) rfl (fun _ => rfl)
    (fun _ _ => Iff.rfl) fun _ _ => rfl

instance : Ordered DeleteModelRequest where
  Writes request written := written = records request

instance : Lawful DeleteModelRequest :=
  lawful_of_fixed (fun _ _ => Iff.rfl) fun request =>
    .text 1 (by decide) DeleteModelRequest.mk (fun _ _ => rfl) request.modelId

instance : Ordered ModelsRequest where
  Writes request written := written = records request

instance : Lawful ModelsRequest := by
  refine lawful_of_fixed (fun _ _ => Iff.rfl) fun ⟨modelIds, count, handle⟩ => ?_
  have one := Carries.texts 1 (by decide) (ModelsRequest.mk · 0 "") (fun _ _ _ => rfl) [] modelIds
  have two := one.append (Carries.number 2 (by decide) rfl (ModelsRequest.mk modelIds · "") (fun _ _ => rfl) count)
  exact two.append (Carries.text 3 (by decide) (ModelsRequest.mk modelIds count) (fun _ _ => rfl) handle)

instance : Ordered ModelsReply where
  Writes reply written := ∃ models, WritesEach 1 reply.models models ∧ written = models ++ textField 2 reply.next

instance : Lawful ModelsReply :=
  lawful_of_page ModelsReply.mk ModelsReply.models ModelsReply.next (fun _ => rfl) rfl (fun _ => rfl)
    (fun _ _ => Iff.rfl) (fun _ _ _ => rfl) fun _ _ _ => rfl

instance : Ordered UploadHeader where
  Writes header := WritesEach 1 header.version.toList

instance : Lawful UploadHeader :=
  lawful_of_optional UploadHeader.mk UploadHeader.version (fun _ => rfl) rfl (fun _ => rfl)
    (fun _ _ => Iff.rfl) fun _ _ => rfl

instance : Ordered DownloadPart where
  Writes part written := written = records part

instance : Lawful DownloadPart :=
  lawful_of_fixed (fun _ _ => Iff.rfl) fun part =>
    .octets 1 (by decide) DownloadPart.mk (fun _ _ => rfl) part.data

instance : Ordered UploadPart where
  Writes
    | .header version => WritesEach 1 [UploadHeader.mk version]
    | .body data => WritesEach 2 [DownloadPart.mk data]
    | .neither => (· = [])

instance : Lawful UploadPart where
  writes_records
    | .header version => writesEach_messageFields 1 [UploadHeader.mk version]
    | .body data => writesEach_messageFields 2 [DownloadPart.mk data]
    | .neither => rfl
  recordsSize_eq {part _} writes := by
    cases part with
    | header version =>
      have writes : WritesEach 1 [UploadHeader.mk version] _ := writes
      exact recordsSize_writesEach writes
    | body data =>
      have writes : WritesEach 2 [DownloadPart.mk data] _ := writes
      exact recordsSize_writesEach writes
    | neither => exact congrArg recordsSize writes
  carries {part _} writes := by
    cases part with
    | header version =>
      obtain _ | ⟨⟨inner, writes, rfl⟩, others⟩ := writes
      cases others
      exact Carries.message 1 (by decide) (fun header : UploadHeader => UploadPart.header header.version)
        (Lawful.carries writes) fun _ _ => rfl
    | body data =>
      obtain _ | ⟨⟨inner, writes, rfl⟩, others⟩ := writes
      cases others
      exact Carries.message 2 (by decide) (fun part : DownloadPart => UploadPart.body part.data)
        (Lawful.carries writes) fun _ _ => rfl
    | neither =>
      cases writes
      exact .nil

instance : Ordered UploadReply where
  Writes reply := WritesEach 1 reply.version.toList

instance : Lawful UploadReply :=
  lawful_of_optional UploadReply.mk UploadReply.version (fun _ => rfl) rfl (fun _ => rfl)
    (fun _ _ => Iff.rfl) fun _ _ => rfl

instance : Ordered VersionsRequest where
  Writes request written := written = records request

instance : Lawful VersionsRequest := by
  refine lawful_of_fixed (fun _ _ => Iff.rfl) fun ⟨modelId, numbers, count, handle⟩ => ?_
  have one := Carries.text 1 (by decide) (VersionsRequest.mk · [] 0 "") (fun _ _ => rfl) modelId
  have two := one.append
    (Carries.numbers 2 (by decide) (VersionsRequest.mk modelId · 0 "") (fun _ _ => rfl) numbers)
  have three := two.append
    (Carries.number 3 (by decide) rfl (VersionsRequest.mk modelId numbers · "") (fun _ _ => rfl) count)
  exact three.append
    (Carries.text 4 (by decide) (VersionsRequest.mk modelId numbers count) (fun _ _ => rfl) handle)

instance : Ordered VersionsReply where
  Writes reply written :=
    ∃ versions, WritesEach 1 reply.versions versions ∧ written = versions ++ textField 2 reply.next

instance : Lawful VersionsReply :=
  lawful_of_page VersionsReply.mk VersionsReply.versions VersionsReply.next (fun _ => rfl) rfl (fun _ => rfl)
    (fun _ _ => Iff.rfl) (fun _ _ _ => rfl) fun _ _ _ => rfl

instance : Ordered DownloadRequest where
  Writes request written := written = records request

instance : Lawful DownloadRequest := by
  refine lawful_of_fixed (fun _ _ => Iff.rfl) fun ⟨modelId, number⟩ => ?_
  have one := Carries.text 1 (by decide) (DownloadRequest.mk · 0) (fun _ _ => rfl) modelId
  exact one.append (Carries.number 2 (by decide) rfl (DownloadRequest.mk modelId) (fun _ _ => rfl) number)

/-- The types of messages: those that clients and the registry exchange, and those that lie within them. -/
inductive MessageType where
  | modelEntry
  | versionEntry
  | acknowledgement
  | putModelRequest
  | deleteModelRequest
  | modelsRequest
  | modelsReply
  | uploadHeader
  | uploadPart
  | uploadReply
  | versionsRequest
  | versionsReply
  | downloadRequest
  | downloadPart

namespace MessageType

abbrev Value : MessageType → Type
  | modelEntry => ModelEntry
  | versionEntry => VersionEntry
  | acknowledgement => Acknowledgement
  | putModelRequest => PutModelRequest
  | deleteModelRequest => DeleteModelRequest
  | modelsRequest => ModelsRequest
  | modelsReply => ModelsReply
  | uploadHeader => UploadHeader
  | uploadPart => UploadPart
  | uploadReply => UploadReply
  | versionsRequest => VersionsRequest
  | versionsReply => VersionsReply
  | downloadRequest => DownloadRequest
  | downloadPart => DownloadPart

instance message : (type : MessageType) → Message type.Value
  | modelEntry => inferInstanceAs (Message ModelEntry)
  | versionEntry => inferInstanceAs (Message VersionEntry)
  | acknowledgement => inferInstanceAs (Message Acknowledgement)
  | putModelRequest => inferInstanceAs (Message PutModelRequest)
  | deleteModelRequest => inferInstanceAs (Message DeleteModelRequest)
  | modelsRequest => inferInstanceAs (Message ModelsRequest)
  | modelsReply => inferInstanceAs (Message ModelsReply)
  | uploadHeader => inferInstanceAs (Message UploadHeader)
  | uploadPart => inferInstanceAs (Message UploadPart)
  | uploadReply => inferInstanceAs (Message UploadReply)
  | versionsRequest => inferInstanceAs (Message VersionsRequest)
  | versionsReply => inferInstanceAs (Message VersionsReply)
  | downloadRequest => inferInstanceAs (Message DownloadRequest)
  | downloadPart => inferInstanceAs (Message DownloadPart)

instance ordered : (type : MessageType) → Ordered type.Value
  | modelEntry => inferInstanceAs (Ordered ModelEntry)
  | versionEntry => inferInstanceAs (Ordered VersionEntry)
  | acknowledgement => inferInstanceAs (Ordered Acknowledgement)
  | putModelRequest => inferInstanceAs (Ordered PutModelRequest)
  | deleteModelRequest => inferInstanceAs (Ordered DeleteModelRequest)
  | modelsRequest => inferInstanceAs (Ordered ModelsRequest)
  | modelsReply => inferInstanceAs (Ordered ModelsReply)
  | uploadHeader => inferInstanceAs (Ordered UploadHeader)
  | uploadPart => inferInstanceAs (Ordered UploadPart)
  | uploadReply => inferInstanceAs (Ordered UploadReply)
  | versionsRequest => inferInstanceAs (Ordered VersionsRequest)
  | versionsReply => inferInstanceAs (Ordered VersionsReply)
  | downloadRequest => inferInstanceAs (Ordered DownloadRequest)
  | downloadPart => inferInstanceAs (Ordered DownloadPart)

instance lawful (type : MessageType) : Lawful type.Value := by
  cases type <;> infer_instance

end MessageType

/-- A message is read back from the octets that write it, in whatever order its entries of user data stand,
and it takes as many octets as its size tells. No other message is written as these octets, so none is
confused with one that lacks a message or holds a blank one in its place. -/
theorem decode?_of_writes (type : MessageType) (message : type.Value) (bound : size message < UInt64.size) :
    decode? (encode message) = some message ∧
      ∀ written, Writes message written →
        decode? (writeRecords written) = some message ∧ (writeRecords written).length = size message ∧
          ∀ (other : type.Value) (records : List Record), Writes other records →
            writeRecords records = writeRecords written → other = message := by
  have reads (one : type.Value) (written : List Record) (writes : Writes one written)
      (small : (writeRecords written).length < UInt64.size) : decode? (writeRecords written) = some one := by
    rw [length_writeRecords] at small
    exact (Lawful.carries writes).merge small nestingLimit
  have counted (written : List Record) (writes : Writes message written) :
      (writeRecords written).length = size message := by
    rw [length_writeRecords, Lawful.recordsSize_eq writes]
  have inOrder := Lawful.writes_records message
  refine ⟨reads message _ inOrder (counted _ inOrder ▸ bound), fun written writes => ?_⟩
  have small : (writeRecords written).length < UInt64.size := counted written writes ▸ bound
  have back := reads message written writes small
  refine ⟨back, counted written writes, fun other records wrote same => ?_⟩
  have others := reads other records wrote (same ▸ small)
  rw [same, back] at others
  exact (Option.some.inj others).symm

/-- The header of an upload with an entry without a key and one without a value, written against their order. -/
theorem decode?_swapped_header :
    let version : VersionEntry := ⟨"m", 3, 0, false, "", 0, .ofPairs [("", "a"), ("b", "")]⟩
    let message : MessageType.uploadPart.Value := .header (some version)
    size message < UInt64.size ∧
      decode? [10, 17, 10, 15, 10, 1, 109, 16, 3, 58, 3, 10, 1, 98, 58, 3, 18, 1, 97] = some message := by
  intro version message
  have bound : size message < UInt64.size := by decide +kernel
  have swapped : [("b", ""), ("", "a")].Perm version.userData.toPairs := by
    have sorted : version.userData.toPairs = [("", "a"), ("b", "")] := by decide +kernel
    rw [sorted]
    exact .swap _ _ []
  have inner : Writes (UploadHeader.mk (some version)) _ := .cons ⟨_, ⟨_, swapped, rfl⟩, rfl⟩ .nil
  have writes : Writes message _ := .cons ⟨_, inner, rfl⟩ .nil
  have read := ((decode?_of_writes .uploadPart message bound).2 _ writes).1
  refine ⟨bound, (congrArg decode? ?_).trans read⟩
  decide +kernel

end ModelVault.Wire
