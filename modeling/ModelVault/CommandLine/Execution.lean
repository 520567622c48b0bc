import ModelVault.CommandLine.Command
import ModelVault.CommandLine.Effect
import ModelVault.CommandLine.Listing
import ModelVault.Config.Loading

/-!
What commands do. A server has its configuration, its address, its identity and its store, in this order,
before it answers requests; the other commands ask a service and show what it replies.
-/

namespace ModelVault

open Act (ask)

/-- The first of some names under which there is a file. -/
def Config.findFile? : List String → Act (Option String)
  | [] => return none
  | name :: rest => do
    if ← ask (.holdsFile name) then return some name
    findFile? rest

/-- The settings of the file that a command line names. -/
def Config.fileEntries (formats : List FileFormat) (name : String) : Act (List (String × Setting)) := do
  let unreadable : Failure := ⟨[], .config .unreadable⟩
  match ← findFile? (fileNames formats name) with
  | none => throw unreadable
  | some path =>
    match ← ask (.readFile path) with
    | .error _ => throw unreadable
    | .ok contents =>
      match fileSettings? formats path contents with
      | some entries => return entries
      | none => throw unreadable

/-- The configuration from all sources. -/
def Config.load (loader : Loader) (environment : Environment) (arguments : ConfigArguments) : Act Config := do
  let file ← match arguments.file with
    | some name => fileEntries loader.formats name
    | none => pure []
  let environment := loader.environment.arrange (Environment.settings environment)
  Act.ofExcept .config (resolve (loader.file.arrange file) environment arguments.overrides)

/-- The identity that a server shows, if it has one. -/
def Config.readIdentity? (config : Config) : Act (Option Identity) := do
  match config.identityFiles? with
  | none => return none
  | some files =>
    let certificate ← Act.readFile ("Failed to read TLS certificate " ++ files.certificate) files.certificate
    let privateKey ← Act.readFile ("Failed to read TLS key " ++ files.privateKey) files.privateKey
    let clientAuthority ← match files.clientAuthority with
      | none => pure none
      | some path => some <$> Act.readFile ("Failed to read client CA " ++ path) path
    return some ⟨certificate, privateKey, clientAuthority⟩

/-- Secure the connections of a server that shows an identity. -/
def Config.secure : Option Identity → Act Unit
  | none => return ()
  | some identity => do
    unless ← ask (.secure identity) do throw ⟨["Invalid TLS configuration"], .transport⟩

/-- The service of a configuration. -/
def Config.service (config : Config) : Service where
  chunkSize := config.chunkSize.toNat
  waitCap := config.waitCap
  maxMessageSize := config.maxMessageSize.toNat

/-- Serve the store of a configuration. The address is taken before the store is opened, so that requests
that come early wait for it. -/
def Config.serve (config : Config) : Act Unit := do
  let address ← Act.ofExcept .config config.listenAddress
  let identity ← config.readIdentity?
  Config.secure identity
  unless ← ask (.listen address) do throw ⟨["Server error"], .transport⟩
  Act.during ("Failed to open " ++ config.engine ++ " storage backend") do
    Act.ofExcept .store (← ask (.openStore config.engine config.connection))
  ask (.serve config.service identity)
  Act.during "Failed to close storage backend" do
    Act.ofExcept .store (← ask .closeStore)

def Connection.reach (connection : Connection) : Act Client :=
  Act.during ("Failed to connect to " ++ connection.endpoint) do
    Act.ofExcept .client (Client.checkEndpoint connection.endpoint)
    unless ← ask (.connect connection.endpoint) do
      throw ⟨[], .client .transport⟩
    return ⟨connection.chunkSize.toNat⟩

def ModelAction.run : ModelAction → Act Unit
  | create modelId userData => do
    Act.during ("Failed to create model " ++ Text.quoted modelId)
      (Act.ofClient (Client.putModel modelId (.ofPairs userData)))
    Act.printLine ("Model " ++ Text.quoted modelId ++ " created")
  | delete modelId => do
    Act.during ("Failed to delete model " ++ Text.quoted modelId)
      (Act.ofClient (Client.deleteModel modelId))
    Act.printLine ("Model " ++ Text.quoted modelId ++ " deleted")
  | list modelIds pageSize json => do
    let models ←
      if modelIds.isEmpty then Act.ofClient (Client.listModels pageSize)
      else Prod.fst <$> Act.ofClient (Client.models modelIds 0 "")
    (Listing.models json models).forM Act.printLine

def VersionAction.run (client : Client) : VersionAction → Act Unit
  | push modelId file number archived userData => do
    let data ← Act.readFile ("Failed to read " ++ file) file
    let version ← Act.during ("Failed to push a version of model " ++ Text.quoted modelId)
      (Act.ofClient (client.push modelId data ⟨number, archived, none, .ofPairs userData⟩))
    Act.printLine ("Pushed version " ++ toString version.number ++ " of model " ++ Text.quoted modelId ++
      " (" ++ toString version.size ++ " bytes, sha256 " ++ version.hash ++ ")")
  | pull modelId number output => do
    let (version, data) ← Act.during ("Failed to pull model " ++ Text.quoted modelId)
      (Act.ofClient (Client.pull modelId number))
    match output with
    | none => ask (.print data)
    | some path =>
      Act.during ("Failed to write " ++ path) do
        Act.ofExcept .file (← ask (.writeFile path data))
      ask (.note ("Pulled version " ++ toString version.number ++ " of model " ++ Text.quoted modelId ++
        " into " ++ path ++ " (" ++ toString data.length ++ " bytes)"))
  | list modelId numbers pageSize json => do
    let versions ←
      if numbers.isEmpty then Act.ofClient (Client.listVersions modelId pageSize)
      else Prod.fst <$> Act.ofClient (Client.versions modelId numbers 0 "")
    (Listing.versions json versions).forM Act.printLine

/-- Do a task. -/
def Task.run (loader : Config.Loader) (environment : Environment) : Task → Act Unit
  | server arguments => do
    let config ← Config.load loader environment arguments
    config.serve
  | config arguments => do
    let config ← Config.load loader environment arguments
    Act.printLine config.toJson.pretty
  | model connection action => do
    let _ ← connection.reach
    action.run
  | version connection action => do
    let client ← connection.reach
    action.run client

end ModelVault
