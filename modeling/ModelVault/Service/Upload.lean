import ModelVault.Digest
import ModelVault.Service.Status
import ModelVault.Wire.Message

/-!
Uploads: a header and then the data in pieces, checked message by message. Only an upload whose data
has the size and the digest that its header announces is ever stored.
-/

namespace ModelVault

/-- An upload that has come in whole. -/
structure Upload where
  version : Wire.VersionEntry
  data : Bytes
  hash : String
  deriving DecidableEq

/-- How far an upload has come in: not at all, or the header and the pieces after it, last one first. -/
inductive UploadState where
  | opened
  | receiving (version : Wire.VersionEntry) (pieces : List Bytes) (received : Nat)
  deriving DecidableEq

namespace UploadState

private def refuse (message : String) : Except Status α :=
  .error ⟨.invalidArgument, message⟩

def step : UploadState → Wire.UploadPart → Except Status UploadState
  | opened, .header (some version) => .ok (receiving version [] 0)
  | opened, .header none => refuse "header does not include a `version_info`"
  | opened, _ => refuse "first request chunk does not include a header"
  | receiving version pieces received, .body piece =>
    let received := received + piece.length
    if version.size.toNat < received then
      refuse ("received more data than expected, expected " ++ toString version.size ++
        " bytes, received " ++ toString received ++ " bytes")
    else .ok (receiving version (piece :: pieces) received)
  | receiving _ _ _, _ => refuse "subsequent request chunk does not include a body"

/-- End the upload: all data has to be there, and to have the digest announced, if one was. -/
def finish : UploadState → Except Status Upload
  | opened => refuse "empty request"
  | receiving version pieces received =>
    if received < version.size.toNat then
      refuse ("stream ended while having not received the expected data, expected " ++
        toString version.size ++ " bytes, received " ++ toString received ++ " bytes")
    else
      let data := pieces.reverse.flatten
      let hash := Digest.text data
      if version.hash ≠ "" ∧ version.hash ≠ hash then
        refuse ("received data did not match the expected hash, expected " ++
          Text.quoted version.hash ++ ", received " ++ Text.quoted hash)
      else .ok ⟨version, data, hash⟩

end UploadState

/-- Take in a whole stream, whose messages may themselves have failed to come in. -/
def Upload.receive (stream : List (Except Status Wire.UploadPart)) : Except Status UploadState :=
  stream.foldlM (fun state message => message >>= state.step) UploadState.opened

end ModelVault
