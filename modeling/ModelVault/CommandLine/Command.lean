import ModelVault.Client.Registry
import ModelVault.CommandLine.Grammar
import ModelVault.Config.Basic

/-! The commands of the program and the command lines that give them. -/

namespace ModelVault

/-- How much is logged. -/
structure Logging where
  verbosity : Nat
  filter : Option String
  deriving DecidableEq

def Logging.levelOf (verbosity : Nat) : String :=
  match verbosity with
  | 0 => "info"
  | 1 => "debug"
  | _ => "trace"

def Logging.level (logging : Logging) : String :=
  levelOf logging.verbosity

/-- Where the service is, and the octets of a piece of an upload. -/
structure Connection where
  endpoint : String
  chunkSize : UInt64
  deriving DecidableEq

/-- What is done with models. -/
inductive ModelAction where
  | create (modelId : String) (userData : List (String × String))
  | delete (modelId : String)
  | list (modelIds : List String) (pageSize : UInt32) (json : Bool)
  deriving DecidableEq

/-- What is done with versions. -/
inductive VersionAction where
  | push (modelId file : String) (number : UInt32) (archived : Bool) (userData : List (String × String))
  | pull (modelId : String) (number : UInt32) (output : Option String)
  | list (modelId : String) (numbers : List UInt32) (pageSize : UInt32) (json : Bool)
  deriving DecidableEq

/-- The settings that a command line gives: a file, and what goes over all other sources. -/
structure ConfigArguments where
  file : Option String
  overrides : Config.Overrides
  deriving DecidableEq

/-- What the program is to do. -/
inductive Task where
  /-- Serve a store. -/
  | server (arguments : ConfigArguments)
  /-- Show the configuration. -/
  | config (arguments : ConfigArguments)
  | model (connection : Connection) (action : ModelAction)
  | version (connection : Connection) (action : VersionAction)
  deriving DecidableEq

/-- A task and how much is logged of it. -/
structure Command where
  task : Task
  logging : Logging
  deriving DecidableEq

namespace Command

open CommandLine

/-- The variable that tells where the service is. -/
def endpointVariable : String := "MODEL_REGISTRY_ENDPOINT"

/-- The variable that filters what is logged. -/
def logVariable : String := "MODEL_REGISTRY_LOG"

/-- Where the service is unless told otherwise. -/
def defaultEndpoint : String := "http://127.0.0.1:9002"

/-- The models or versions of a page unless told otherwise. -/
def defaultPageSize : Nat := 100

private def option (name : String) (arity : Arity) (kind : ArgumentKind) : Parameter :=
  ⟨name, arity, kind, none, none, none⟩

private def withShort (letter : Char) (parameter : Parameter) : Parameter :=
  { parameter with short := some letter }

private def helpOption : Parameter := withShort 'h' (option "help" .help .text)

private def loggingOptions : List Parameter := [
  withShort 'v' (option "verbose" .count .text),
  { option "log-filter" .once .text with fallback := some logVariable }]

private def configOptions : List Parameter := [
  withShort 'c' (option "config" .once .path),
  option "host" .once .text,
  option "port" .once (.word 65536),
  option "engine" .once .text,
  option "engine-connection" .once .text,
  option "chunk-size" .once .size,
  option "backend-wait-timeout-ms" .once .size,
  option "tls-cert" .once .path,
  option "tls-key" .once .path,
  option "tls-client-ca" .once .path]

private def connectionOptions : List Parameter := [
  { option "endpoint" .once .text with fallback := some endpointVariable },
  option "chunk-size" .once .size]

private def number32 : ArgumentKind := .word 4294967296

private def userDataOption : Parameter := option "user-data" .many .entry

private def pageSizeOption : Parameter := option "page-size" .once number32

private def jsonOption : Parameter := option "json" .flag .text

private def modelPosition : Parameter := option "model-id" .once .text

private def action (name : String) (options positions : List Parameter) : Grammar :=
  ⟨name, options ++ loggingOptions ++ [helpOption], positions, []⟩

private def modelActions : List Grammar := [
  action "create" [userDataOption] [modelPosition],
  action "delete" [] [modelPosition],
  action "list" [pageSizeOption, jsonOption] [option "model-ids" .many .text]]

private def versionActions : List Grammar := [
  action "push" [option "version-number" .once number32, option "archived" .flag .text, userDataOption]
    [modelPosition, option "file" .once .path],
  action "pull" [option "version-number" .once number32, withShort 'o' (option "output" .once .path)]
    [modelPosition],
  action "list" [{ option "versions" .many number32 with separator := some ',' }, pageSizeOption, jsonOption]
    [modelPosition]]

private def remote (name : String) (actions : List Grammar) : Grammar :=
  ⟨name, connectionOptions ++ loggingOptions ++ [helpOption], [], actions⟩

/-- The grammar of all command lines. -/
def grammar : Grammar :=
  ⟨"model-registry", [helpOption], [], [
    ⟨"server", configOptions ++ loggingOptions ++ [helpOption], [], []⟩,
    ⟨"config", configOptions ++ loggingOptions ++ [helpOption], [], []⟩,
    remote "model" modelActions,
    remote "version" versionActions]⟩

private def values (name : String) (findings : Findings) : List ArgumentValue :=
  ((findings.lookup? name).map (·.values)).getD []

private def texts (name : String) (findings : Findings) : List String :=
  (values name findings).filterMap fun
    | .text value => some value
    | _ => none

private def numbers (name : String) (findings : Findings) : List Nat :=
  (values name findings).filterMap fun
    | .number value => some value
    | _ => none

private def entries (findings : Findings) : List (String × String) :=
  (values "user-data" findings).filterMap fun
    | .entry key value => some (key, value)
    | _ => none

private def text? (name : String) (findings : Findings) : Option String :=
  (texts name findings).head?

private def number? (name : String) (findings : Findings) : Option Nat :=
  (numbers name findings).head?

private def given (name : String) (findings : Findings) : Bool :=
  (findings.lookup? name).isSome

private def configArguments (findings : Findings) : ConfigArguments where
  file := text? "config" findings
  overrides := {
    host := text? "host" findings
    port := (number? "port" findings).map UInt16.ofNat
    backendWait := (number? "backend-wait-timeout-ms" findings).map UInt64.ofNat
    certificate := text? "tls-cert" findings
    privateKey := text? "tls-key" findings
    clientAuthority := text? "tls-client-ca" findings
    engine := text? "engine" findings
    connection := text? "engine-connection" findings
    chunkSize := (number? "chunk-size" findings).map UInt64.ofNat }

private def connection (findings : Findings) : Connection where
  endpoint := (text? "endpoint" findings).getD defaultEndpoint
  chunkSize := UInt64.ofNat ((number? "chunk-size" findings).getD Client.defaultChunkSize)

private def pageSize (findings : Findings) : UInt32 :=
  UInt32.ofNat ((number? "page-size" findings).getD defaultPageSize)

private def versionNumber (findings : Findings) : UInt32 :=
  UInt32.ofNat ((number? "version-number" findings).getD 0)

/-- What was found of a parameter that two levels know. The inner one counts, unless only the outer one was
given on the command line. -/
private def innermost (name : String) (outer inner : Findings) : Findings :=
  match inner.lookup? name, outer.lookup? name with
  | some found, some earlier =>
    if found.source = .environment ∧ earlier.source = .commandLine then outer else inner
  | some _, none => inner
  | none, _ => outer

private def loggingOf (outer inner : Findings) : Logging where
  verbosity := (number? "verbose" (innermost "verbose" outer inner)).getD 0
  filter := text? "log-filter" (innermost "log-filter" outer inner)

private def modelAction (name : String) (findings : Findings) : ModelAction :=
  let modelId := (text? "model-id" findings).getD ""
  if name = "create" then .create modelId (entries findings)
  else if name = "delete" then .delete modelId
  else .list (texts "model-ids" findings) (pageSize findings) (given "json" findings)

private def versionAction (name : String) (findings : Findings) : VersionAction :=
  let modelId := (text? "model-id" findings).getD ""
  if name = "push" then
    .push modelId ((text? "file" findings).getD "") (versionNumber findings) (given "archived" findings)
      (entries findings)
  else if name = "pull" then .pull modelId (versionNumber findings) (text? "output" findings)
  else
    .list modelId ((numbers "versions" findings).map UInt32.ofNat) (pageSize findings)
      (given "json" findings)

/-- The command that the levels of a command line give. -/
def ofLevels? : List Level → Option Command
  | [_, ⟨name, findings⟩] =>
    let arguments := configArguments findings
    some ⟨if name = "server" then .server arguments else .config arguments, loggingOf [] findings⟩
  | [_, ⟨name, outer⟩, ⟨action, inner⟩] =>
    let task : Task :=
      if name = "model" then .model (connection outer) (modelAction action inner)
      else .version (connection outer) (versionAction action inner)
    some ⟨task, loggingOf outer inner⟩
  | _ => none

/-- Read a command line without the program's name. -/
def read (environment : Environment) (words : List String) : Except UsageError Command :=
  match grammar.read environment words with
  | .error fault => .error fault
  | .ok levels =>
    match ofLevels? levels with
    | some command => .ok command
    | none => .error .missingSubcommand

end Command

end ModelVault
