import ModelVault.Number.Word
import ModelVault.Service.Handle
import ModelVault.Service.Request
import ModelVault.Service.Upload
import ModelVault.Storage.Call

/-!
What the service does for each request: checks that need no store, and then a dialogue with the store.
The wait for the store lies between the two.
-/

namespace ModelVault

open Wire (VersionEntry ModelEntry)

/-- What is left to do for a request once the checks that need no store are made. -/
inductive Plan (α : Type) where
  /-- The request is wrong in itself. -/
  | refused (status : Status)
  /-- The stream of the request stays open; so much of it has come in. -/
  | receiving (state : UploadState)
  /-- The request needs the store. -/
  | ready (work : α)

/-- The same plan with other work. -/
def Plan.map (change : α → β) : Plan α → Plan β
  | refused status => refused status
  | receiving state => receiving state
  | ready work => ready (change work)

/-- The settings of a service: the octets of a piece of data, the longest wait for the store in
nanoseconds, and the octets of a message. -/
structure Service where
  chunkSize : Nat
  waitCap : Option Nat
  maxMessageSize : Nat

/-- The pieces of a payload, each of at most `size` octets; an empty payload is one empty piece. -/
def chunkPayload (data : Bytes) (size : Nat) : List Bytes :=
  if data.isEmpty then [[]] else splitEvery size data

/-- Where the pieces of so many items begin: at the front, and at every `width`-th item behind it. -/
def cutPlaces (width length : Nat) : List Nat :=
  List.range' 0 ((length + (width - 1)) / width) width

/-- The octets from one place up to another, if these are in order and within the payload. -/
def slice? (data : Bytes) (first stop : UInt64) : Option Bytes :=
  if first ≤ stop ∧ stop.toNat ≤ data.length then
    some ((data.drop first.toNat).take (stop.toNat - first.toNat))
  else none

/-- The pieces of a payload, cut out of it at places that are machine words. There are none if a sum of places
leaves the range of words, or if a piece does not lie within the payload. -/
def cutInWords? (data : Bytes) (size : UInt64) : Option (List Bytes) :=
  if data.isEmpty then some [[]]
  else
    let width := max size 1
    (cutPlaces width.toNat data.length).mapM fun place => do
      let stop ← Word.sum? (.ofNat place) width
      slice? data (.ofNat place) (min stop (.ofNat data.length))

def ModelInfo.entry (info : ModelInfo) : ModelEntry where
  modelId := info.id
  userData := info.userData

/-- What clients see of a version. -/
def VersionInfo.entry (info : VersionInfo) : VersionEntry where
  modelId := info.modelId
  number := info.number
  createdAt := info.createdAt.toWire
  archived := info.archived
  hash := info.hash
  size := UInt64.ofNat info.size
  userData := info.userData

/-- The draft of an upload, whose digest is the one computed of its data. -/
def Upload.draft (now : Moment) (upload : Upload) (addressable : upload.data.Addressable) : VersionDraft where
  number := upload.version.number
  createdAt := .ofWire now upload.version.createdAt
  archived := upload.version.archived
  hash := upload.hash
  data := upload.data
  userData := upload.version.userData
  addressable := addressable

namespace Service

/-- A computation over a store that may end with a status. -/
abbrev Work (α : Type) := ExceptT Status (Dialogue Storage.Call Storage.Call.Reply) α

/-- Call the store; a refusal ends the work with its status. -/
def ask (action : String) (call : Storage.Call) : Work call.Value :=
  ExceptT.mk (Dialogue.ask call fun reply => .done (reply.mapError (·.status action)))

/-- Carry out the work of a request and send its reply. -/
def replying (service : Service) (work : Work Reply) : StoreDialogue Answer :=
  Dialogue.bind work.run fun reply => .done (reply >>= (·.send service.maxMessageSize))

/-- Create a model or replace its user data. -/
def putModel (model : ModelEntry) : Work Reply := do
  let _ ← ask ("creating model " ++ Text.quoted model.modelId) (.putModel model.modelId model.userData)
  return .done

def deleteModel (modelId : String) : Work Reply := do
  let _ ← ask ("deleting model " ++ Text.quoted modelId) (.deleteModel modelId)
  return .done

/-- The models of these identifiers, all of which have to exist. -/
def namedModels : List String → Work (List ModelEntry)
  | [] => return []
  | modelId :: rest => do
    let info : ModelInfo ← ask "retrieving models" (.modelInfo modelId)
    return info.entry :: (← namedModels rest)

/-- The models of these identifiers, but for those that have gone since they were listed. -/
def remainingModels : List String → Work (List ModelEntry)
  | [] => return []
  | modelId :: rest => do
    let found : Except StoreError ModelInfo ←
      ExceptT.lift (Dialogue.question (Storage.Call.modelInfo modelId))
    match found with
    | .ok info => return info.entry :: (← remainingModels rest)
    | .error (.unknownModel _) => remainingModels rest
    | .error refusal => throw (refusal.status "retrieving models")

/-- A page of all models. The position moves on by what was listed, gone or not. -/
def allModels (offset count : Nat) : Work Reply := do
  let modelIds : List String ← ask "retrieving models" (.listModels offset count)
  return .models ⟨← remainingModels modelIds, Handle.format (offset + modelIds.length)⟩

/-- A page of the models asked for by name. -/
def someModels (modelIds : List String) (offset count : Nat) : Work Reply := do
  let taken := Handle.page modelIds offset count
  return .models ⟨← namedModels taken, Handle.format (offset + taken.length)⟩

/-- Store an upload. What has more octets than can be counted cannot be a draft, and is too large for any store. -/
def store (now : Moment) (upload : Upload) : Work Reply :=
  let action := "creating a version for model " ++ Text.quoted upload.version.modelId
  if addressable : upload.data.Addressable then do
    let info : VersionInfo ← ask action (.putVersion upload.version.modelId (upload.draft now addressable))
    return .uploaded ⟨some info.entry⟩
  else throw ((StoreError.fault (.payloadTooLarge upload.data.length)).status action)

/-- The position behind the last version of a page, or the same one behind an empty page. -/
def nextPosition (versions : List VersionInfo) (position : Nat) : Nat :=
  match versions.getLast? with
  | some last => last.number.toNat + 1
  | none => position

/-- A page of all versions of a model, from a number on that may lie beyond the last possible one. -/
def allVersions (modelId : String) (position count : Nat) : Work Reply := do
  let first := UInt32.ofNat (min position 4294967295)
  let listed : List VersionInfo ← ask ("retrieving versions of model " ++ Text.quoted modelId)
    (.listVersions modelId first count)
  let versions := listed.filter (position ≤ ·.number.toNat)
  return .versions ⟨versions.map (·.entry), Handle.format (nextPosition versions position)⟩

/-- What failed when a version could not be retrieved. -/
def retrieval (modelId : String) (number : UInt32) : String :=
  "retrieving version \"" ++ toString number ++ "\" for model " ++ Text.quoted modelId

/-- The versions of these numbers, all of which have to exist. -/
def namedVersions (modelId : String) : List UInt32 → Work (List VersionEntry)
  | [] => return []
  | number :: rest => do
    let info : VersionInfo ← ask (retrieval modelId number) (.versionInfo modelId number)
    return info.entry :: (← namedVersions modelId rest)

/-- A page of the versions asked for by number. -/
def someVersions (modelId : String) (numbers : List UInt32) (offset count : Nat) : Work Reply := do
  let taken := Handle.page numbers offset count
  return .versions ⟨← namedVersions modelId taken, Handle.format (offset + taken.length)⟩

/-- The data of a version in pieces. -/
def download (chunkSize : Nat) (modelId : String) (number : UInt32) : Work Reply := do
  let data : Bytes ← ask (retrieval modelId number) (.versionData modelId number)
  return .data (chunkPayload data chunkSize) none

/-- The plan of a handle's position, or its refusal. -/
def withPosition (field handle : String) (next : Nat → Work Reply) : Plan (Work Reply) :=
  match Handle.parse .bits64 field handle with
  | .ok position => .ready (next position)
  | .error status => .refused status

/-- What is left to do for an upload that has come in so far, and that ends here or goes on. -/
def received (now : Moment) (ends : Bool) (upload : Except Status UploadState) : Plan (Work Reply) :=
  match upload with
  | .error status => .refused status
  | .ok state =>
    if ends then
      match state.finish with
      | .ok upload => .ready (store now upload)
      | .error status => .refused status
    else .receiving state

/-- Make the checks that need no store. `now` is the time of uploads that name none. -/
def prepare (service : Service) (now : Moment) (request : Request) : Plan (Work Reply) :=
  match request.checkSize service.maxMessageSize with
  | .error status => .refused status
  | .ok () =>
    match request with
    | .putModel message =>
      match message.model with
      | some model => .ready (putModel model)
      | none => .refused ⟨.invalidArgument, "request does not include a `model_info`"⟩
    | .deleteModel message => .ready (deleteModel message.modelId)
    | .models message =>
      withPosition "model_handle" message.handle fun offset =>
        if message.modelIds.isEmpty then allModels offset message.count.toNat
        else someModels message.modelIds offset message.count.toNat
    | .upload frames ends =>
      received now ends (Upload.receive (frames.map (·.receive service.maxMessageSize)))
    | .versions message =>
      withPosition "version_handle" message.handle fun position =>
        if message.numbers.isEmpty then allVersions message.modelId position message.count.toNat
        else someVersions message.modelId message.numbers position message.count.toNat
    | .download message => .ready (download service.chunkSize message.modelId message.number)

/-- What is left to do for a request, the sending of its reply included. -/
def plan (service : Service) (now : Moment) (request : Request) : Plan (StoreDialogue Answer) :=
  (service.prepare now request).map service.replying

end Service

end ModelVault
