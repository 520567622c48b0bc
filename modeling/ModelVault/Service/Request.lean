import ModelVault.Service.Status
import ModelVault.Wire.Message

/-! The requests of the registry, their replies, and the limit on the size of both. -/

namespace ModelVault

open Wire (Message)

/-- A message of an upload, as it is or still encoded. -/
inductive UploadFrame where
  | message (part : Wire.UploadPart)
  | encoded (octets : Bytes)
  deriving DecidableEq

/-- A request of the registry. An upload may stay open behind its last message. -/
inductive Request where
  | putModel (message : Wire.PutModelRequest)
  | deleteModel (message : Wire.DeleteModelRequest)
  | models (message : Wire.ModelsRequest)
  | upload (frames : List UploadFrame) (ends : Bool)
  | versions (message : Wire.VersionsRequest)
  | download (message : Wire.DownloadRequest)
  deriving DecidableEq

/-- What a request is answered with. Data comes in pieces, and may break off with a status. -/
inductive Reply where
  | done
  | models (message : Wire.ModelsReply)
  | uploaded (message : Wire.UploadReply)
  | versions (message : Wire.VersionsReply)
  | data (pieces : List Bytes) (failure : Option Status)
  deriving DecidableEq

/-- The reply, or the status of a request that was refused. -/
abbrev Answer := Except Status Reply

/-- The octets of a message that come in fit the limit. -/
def checkReceived (limit octets : Nat) : Except Status Unit :=
  if octets ≤ limit then .ok ()
  else .error ⟨.outOfRange, "Error, decoded message length too large: found " ++ toString octets ++
    " bytes, the limit is: " ++ toString limit ++ " bytes"⟩

/-- The most octets that a message can have: they are counted in 32 bits in front of it. -/
def maxFramedSize : Nat := 4294967295

/-- The octets of a message that goes out fit the limit, and can be counted. -/
def checkSent (limit octets : Nat) : Except Status Unit :=
  if limit < octets then
    .error ⟨.outOfRange, "Error, encoded message length too large: found " ++ toString octets ++
      " bytes, the limit is: " ++ toString limit ++ " bytes"⟩
  else if maxFramedSize < octets then
    .error ⟨.resourceExhausted, "Cannot return body with more than 4GB of data but got " ++ toString octets ++
      " bytes"⟩
  else .ok ()

theorem checkSent_fitting {limit octets : Nat} (fits : octets ≤ limit) (counted : octets ≤ maxFramedSize) :
    checkSent limit octets = .ok () := by
  rw [checkSent, if_neg (Nat.not_lt.mpr fits), if_neg (Nat.not_lt.mpr counted)]

theorem code_of_checkSent {limit octets : Nat} {status : Status} (refused : checkSent limit octets = .error status) :
    limit < octets ∧ status.code = .outOfRange ∨ maxFramedSize < octets ∧ status.code = .resourceExhausted := by
  unfold checkSent at refused
  split at refused
  · next long =>
    cases refused
    exact .inl ⟨long, rfl⟩
  · split at refused
    · next uncounted =>
      cases refused
      exact .inr ⟨uncounted, rfl⟩
    · cases refused

/-- Take in a message of an upload. -/
def UploadFrame.receive (limit : Nat) : UploadFrame → Except Status Wire.UploadPart
  | message part => do
    checkReceived limit (Message.size part)
    return part
  | encoded octets => do
    checkReceived limit octets.length
    match Message.decode? octets with
    | some part => return part
    | none => throw ⟨.internal, "failed to decode Protobuf message"⟩

/-- The message of a request other than an upload fits the limit of the receiver. -/
def Request.checkSize (limit : Nat) : Request → Except Status Unit
  | putModel message => checkReceived limit (Message.size message)
  | deleteModel message => checkReceived limit (Message.size message)
  | models message => checkReceived limit (Message.size message)
  | upload _ _ => .ok ()
  | versions message => checkReceived limit (Message.size message)
  | download message => checkReceived limit (Message.size message)

/-- The pieces before the first that exceeds the limit, and the status that it breaks off with. -/
def sendPieces (limit : Nat) : List Bytes → List Bytes × Option Status
  | [] => ([], none)
  | piece :: rest =>
    match checkSent limit (Message.size (Wire.DownloadPart.mk piece)) with
    | .ok () =>
      let (sent, failure) := sendPieces limit rest
      (piece :: sent, failure)
    | .error status => ([], some status)

/-- Send a reply; what exceeds the limit becomes a status. -/
def Reply.send (limit : Nat) : Reply → Answer
  | done => .ok done
  | models message => (checkSent limit (Message.size message)).map fun () => models message
  | uploaded message => (checkSent limit (Message.size message)).map fun () => uploaded message
  | versions message => (checkSent limit (Message.size message)).map fun () => versions message
  | data pieces failure =>
    match sendPieces limit pieces with
    | (sent, none) => .ok (data sent failure)
    | (sent, some status) => .ok (data sent (some status))

end ModelVault
