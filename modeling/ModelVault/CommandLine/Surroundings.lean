import ModelVault.CommandLine.Effect
import ModelVault.Service.Session

/-!
Surroundings in memory: files, a service that is reached at one address, and what commands write. A server
can listen on the addresses that every host has. It gets as far as being ready, but nobody interrupts it.
-/

namespace ModelVault

open Storage (Backend Database)

/-- What commands work on, and what they have written. -/
structure Surroundings (σ : Type) where
  files : FileTree
  /-- The database that the contents of a file are, if they are one. -/
  database? : Bytes → Option Database
  /-- Connections can be secured with an identity. -/
  secures : Identity → Bool
  /-- Where the service is. -/
  endpoint : String
  session : Session σ
  output : Bytes
  notes : String

namespace Surroundings

variable {σ : Type}

/-- The database in the file of a name; a file that can be made gets a new one. -/
def connect? (here : Surroundings σ) (path : String) : Option Database :=
  match here.files.read path with
  | .ok contents => here.database? contents
  | .error _ => if here.files.canCreate path then some .new else none

variable [Backend σ]

def answer : (effect : Effect) → Surroundings σ → Option effect.Reply × Surroundings σ
  | .holdsFile path, here => (some (here.files.holds path), here)
  | .readFile path, here => (some (here.files.read path), here)
  | .writeFile path contents, here =>
    match here.files.write path contents with
    | .ok files => (some (.ok ()), { here with files := files })
    | .error error => (some (.error error), here)
  | .print contents, here => (some (), { here with output := here.output ++ contents })
  | .note line, here => (some (), { here with notes := here.notes ++ line ++ "\n" })
  | .connect endpoint, here => (some (endpoint == here.endpoint), here)
  | .request request, here =>
    let (reply, session) := here.session.call request []
    (reply, { here with session := session })
  | .secure identity, here => (some (here.secures identity), here)
  | .listen address, here => (some address.isOwn, here)
  | .openStore engine connection, here =>
    let opened := Storage.Store.create here.connect? engine connection
    (some (opened.map fun _ => ()), here)
  | .serve _ _, here => (none, here)
  | .closeStore, here => (some (.ok ()), here)

/-- Let a command act, with nothing written yet. Without a result when it never ends. -/
def perform (act : Act α) (here : Surroundings σ) : Option (Except Failure α) × Surroundings σ :=
  Dialogue.run? answer act.run { here with output := [], notes := "" }

end Surroundings

end ModelVault
