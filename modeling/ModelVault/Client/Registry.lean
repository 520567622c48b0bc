import ModelVault.Client.Error
import ModelVault.Net.Endpoint
import ModelVault.Service.Plan

/-!
The client of the registry: each operation is a dialogue of requests. Uploads announce the size and the
digest of the data, downloads are checked against the digest, and listings follow the handles until a
page is empty.
-/

namespace ModelVault

/-- The octets of a piece of an upload. -/
structure Client where
  chunkSize : Nat

namespace Client

/-- A computation over a service that may give up. -/
abbrev Work (α : Type) := ExceptT ClientError (Dialogue Request fun _ => Answer) α

/-- The address of a service has to be one before it is worth while to try it. -/
def checkEndpoint (endpoint : String) : Except ClientError Unit :=
  if Endpoint.isWellFormed endpoint then .ok () else .error (.invalidEndpoint endpoint)

/-- The octets of the longest message that a client sends or takes. -/
def maxMessageSize : Nat := 16777216

/-- The octets of a piece of an upload unless told otherwise. -/
def defaultChunkSize : Nat := 5242880

/-- The most pages that a listing can have: handles are 64-bit positions, and each page but the last
moves on. -/
def pageBound : Nat := 18446744073709551616

/-- The octets of each message of a request. -/
def sizes : Request → List Nat
  | .putModel message => [Wire.Message.size message]
  | .deleteModel message => [Wire.Message.size message]
  | .models message => [Wire.Message.size message]
  | .upload frames _ => frames.map fun
    | .message part => Wire.Message.size part
    | .encoded octets => octets.length
  | .versions message => [Wire.Message.size message]
  | .download message => [Wire.Message.size message]

/-- Take in a reply, each of whose messages has to fit the limit. -/
def receive : Reply → Except Status Reply
  | .done => .ok .done
  | .models message => do
    checkReceived maxMessageSize (Wire.Message.size message)
    return .models message
  | .uploaded message => do
    checkReceived maxMessageSize (Wire.Message.size message)
    return .uploaded message
  | .versions message => do
    checkReceived maxMessageSize (Wire.Message.size message)
    return .versions message
  | .data pieces failure => do
    for piece in pieces do
      checkReceived maxMessageSize (Wire.Message.size (Wire.DownloadPart.mk piece))
    match failure with
    | some status => throw status
    | none => return .data pieces none

/-- Send a request and take in its reply. -/
def ask (request : Request) : Work Reply := do
  match (sizes request).forM (checkSent maxMessageSize) with
  | .error status => throw (.refused status)
  | .ok () =>
    let answer : Answer ← ExceptT.lift (Dialogue.question request)
    match answer >>= receive with
    | .ok reply => return reply
    | .error status => throw (.refused status)

/-- Create a model or replace its user data. -/
def putModel (modelId : String) (userData : UserData) : Work Unit := do
  let _ ← ask (.putModel ⟨some ⟨modelId, userData⟩⟩)

def deleteModel (modelId : String) : Work Unit := do
  let _ ← ask (.deleteModel ⟨modelId⟩)

/-- One page of models and the handle of the next. -/
def models (modelIds : List String) (count : UInt32) (handle : String) :
    Work (List Wire.ModelEntry × String) := do
  match ← ask (.models ⟨modelIds, count, handle⟩) with
  | .models reply => return (reply.models, reply.next)
  | _ => return ([], "")

/-- One page of versions and the handle of the next. -/
def versions (modelId : String) (numbers : List UInt32) (count : UInt32) (handle : String) :
    Work (List Wire.VersionEntry × String) := do
  match ← ask (.versions ⟨modelId, numbers, count, handle⟩) with
  | .versions reply => return (reply.versions, reply.next)
  | _ => return ([], "")

/-- All pages from a handle on, until one is empty. -/
def collect (fetch : String → Work (List α × String)) : Nat → String → Work (List α)
  | 0, _ => return []
  | bound + 1, handle => do
    let (page, next) ← fetch handle
    if page.isEmpty then return []
    return page ++ (← collect fetch bound next)

def listModels (pageSize : UInt32) : Work (List Wire.ModelEntry) :=
  collect (models [] pageSize) pageBound ""

def listVersions (modelId : String) (pageSize : UInt32) : Work (List Wire.VersionEntry) :=
  collect (versions modelId [] pageSize) pageBound ""

/-- What is to be said of a version that is pushed. -/
structure PushOptions where
  number : UInt32
  archived : Bool
  createdAt : Option Moment
  userData : UserData

/-- The header of an upload. Without a time, the service takes its own. -/
def uploadHeader (modelId : String) (data : Bytes) (options : PushOptions) : Wire.VersionEntry where
  modelId := modelId
  number := options.number
  createdAt := (options.createdAt.map Moment.toWire).getD 0
  archived := options.archived
  hash := Digest.text data
  size := UInt64.ofNat data.length
  userData := options.userData

/-- The pieces of an upload; without data there is none. -/
def uploadPieces (client : Client) (data : Bytes) : List Bytes :=
  if data.isEmpty then [] else chunkPayload data client.chunkSize

def push (client : Client) (modelId : String) (data : Bytes) (options : PushOptions) :
    Work Wire.VersionEntry := do
  let header := Wire.UploadPart.header (some (uploadHeader modelId data options))
  let bodies := (client.uploadPieces data).map Wire.UploadPart.body
  match ← ask (.upload ((header :: bodies).map .message) true) with
  | .uploaded ⟨some version⟩ => return version
  | _ => throw (.invalidResponse .noVersion)

/-- Download the data of a version; even an empty payload comes as a piece. -/
def pullData (modelId : String) (number : UInt32) : Work Bytes := do
  match ← ask (.download ⟨modelId, number⟩) with
  | .data (piece :: rest) _ => return (piece :: rest).flatten
  | _ => throw (.invalidResponse .noData)

/-- Download a version: first what is known of it, and then the data of the number found, which has to
have the digest found. -/
def pull (modelId : String) (number : UInt32) : Work (Wire.VersionEntry × Bytes) := do
  match ← versions modelId [number] 1 "" with
  | ([], _) => throw (.invalidResponse .noInfo)
  | (version :: _, _) =>
    let data ← pullData modelId version.number
    let actual := Digest.text data
    if actual ≠ version.hash then
      throw (.hashMismatch modelId version.number version.hash actual)
    return (version, data)

end Client

end ModelVault
