import ModelVault.Client.Registry
import ModelVault.Config.Basic
import ModelVault.Files.Tree

/-!
What commands ask of their surroundings, and how they fail. A command decides nothing by what it cannot see
here, so its runs are determined by the replies.
-/

namespace ModelVault

/-- The contents of the files of an identity that a server shows its clients. -/
structure Identity where
  certificate : Bytes
  privateKey : Bytes
  clientAuthority : Option Bytes
  deriving DecidableEq

/-- What a command asks of its surroundings. -/
inductive Effect where
  /-- Is there a file of this name? -/
  | holdsFile (path : String)
  | readFile (path : String)
  | writeFile (path : String) (contents : Bytes)
  /-- Write to the standard output. -/
  | print (contents : Bytes)
  /-- Write a line for the user, apart from the output. -/
  | note (line : String)
  /-- Reach the service at an address. -/
  | connect (endpoint : String)
  /-- Ask the service that was reached. -/
  | request (request : Request)
  /-- Secure the connections of a server with an identity. -/
  | secure (identity : Identity)
  /-- Take an address to listen on. -/
  | listen (address : SocketAddress)
  | openStore (engine connection : String)
  /-- Answer requests until interrupted. -/
  | serve (service : Service) (identity : Option Identity)
  | closeStore

/-- The replies to each kind of question. -/
abbrev Effect.Reply : Effect → Type
  | holdsFile _ => Bool
  | readFile _ => Except FileError Bytes
  | writeFile _ _ => Except FileError Unit
  | print _ => Unit
  | note _ => Unit
  | connect _ => Bool
  | request _ => Answer
  | secure _ => Bool
  | listen _ => Bool
  | openStore _ _ => Except StoreError Unit
  | serve _ _ => Unit
  | closeStore => Except StoreError Unit

/-- What goes wrong in a command. -/
inductive Cause where
  | config (error : ConfigError)
  | client (error : ClientError)
  | file (error : FileError)
  /-- The connections of a server cannot be set up. -/
  | transport
  | store (error : StoreError)
  deriving DecidableEq

/-- Why a command failed: what it was doing, the outermost first, and what went wrong. -/
structure Failure where
  doing : List String
  cause : Cause
  deriving DecidableEq

def FileError.message : FileError → String
  | notFound => "No such file or directory"
  | isDirectory => "Is a directory"
  | notDirectory => "Not a directory"
  | permissionDenied => "Permission denied"
  | invalidName => "Invalid name"
  | other => "Input or output failed"

def Cause.message : Cause → String
  | config error => (error.message?).getD (ConfigError.framed "unreadable settings")
  | client error => (error.message?).getD "Transport error"
  | file error => error.message
  | transport => "Transport error"
  | store error => error.message

/-- The lines that tell the user of a failure: what was being done, and below it what went wrong. -/
def Failure.report (failure : Failure) : String :=
  match failure.doing with
  | [] => "Error: " ++ failure.cause.message
  | doing => "Error: " ++ "\n  ".intercalate (doing ++ ["Caused by: " ++ failure.cause.message])

/-- A computation over the surroundings that may fail. -/
abbrev Act (α : Type) := ExceptT Failure (Dialogue Effect Effect.Reply) α

namespace Act

def ask (effect : Effect) : Act effect.Reply :=
  ExceptT.lift (Dialogue.question effect)

/-- Go on with a result, or fail for a cause. -/
def ofExcept (cause : ε → Cause) : Except ε α → Act α
  | .ok value => return value
  | .error error => throw ⟨[], cause error⟩

/-- Say of failures what was being done. -/
def during (doing : String) (act : Act α) : Act α :=
  tryCatch act fun failure => throw { failure with doing := doing :: failure.doing }

/-- Read a file, of which failures say what it was for. -/
def readFile (doing path : String) : Act Bytes :=
  during doing do ofExcept .file (← ask (.readFile path))

def printLine (line : String) : Act Unit :=
  ask (.print (Bytes.ofText (line ++ "\n")))

/-- Do the work of a client with the service that was reached. -/
def ofClient (work : Client.Work α) : Act α := do
  let outcome : Except ClientError α ←
    ExceptT.lift (Dialogue.through (fun request => Dialogue.question (Effect.request request)) work.run)
  ofExcept .client outcome

end Act

end ModelVault
