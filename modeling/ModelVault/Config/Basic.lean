import ModelVault.Net.Address
import ModelVault.Storage.Store

/-!
The configuration of a server: its ten settings, what makes them acceptable, and the settings that a command
line puts over them.
-/

namespace ModelVault

/-- The settings of a server. -/
structure Config where
  /-- The address to listen on, without the port. -/
  host : String
  port : UInt16
  /-- The longest wait of a request for the store, in milliseconds. -/
  backendWait : Option UInt64
  /-- The octets of a message. -/
  maxMessageSize : UInt64
  /-- The file of the certificate. -/
  certificate : Option String
  /-- The file of the certificate's private key. -/
  privateKey : Option String
  /-- The file of the authority that signs the certificates of clients. -/
  clientAuthority : Option String
  engine : String
  connection : String
  /-- The octets of a piece of data. -/
  chunkSize : UInt64
  deriving DecidableEq

/-- What is wrong with a configuration. -/
inductive ConfigError where
  /-- A file is missing or is no document of settings, or a value has the wrong type. -/
  | unreadable
  | unsupportedEngine (engine : String)
  | emptyChunks
  | oversizedChunks (chunkSize maxMessageSize : UInt64)
  /-- One of certificate and private key is given without the other. -/
  | unpairedIdentity
  | badAddress
  deriving DecidableEq

namespace ConfigError

/-- The wording of an error, where it has one of its own. -/
def text? : ConfigError → Option String
  | unreadable => none
  | unsupportedEngine engine =>
    some ("unsupported storage engine " ++ Text.quoted engine ++ ", expected one of " ++
      Text.quotedList ["duckdb", "memory"])
  | emptyChunks => some "transfer.chunk_size must be greater than 0"
  | oversizedChunks chunkSize maxMessageSize =>
    some ("transfer.chunk_size (" ++ toString chunkSize ++ ") exceeds server.max_message_size (" ++
      toString maxMessageSize ++ ")")
  | unpairedIdentity => some "server.tls_cert and server.tls_key must be provided together"
  | badAddress => some "invalid listen address: invalid socket address syntax"

/-- The form in which all errors of configurations are shown. -/
def framed (text : String) : String :=
  "Configuration error: " ++ text

/-- The text that is shown for an error. -/
def message? (error : ConfigError) : Option String :=
  error.text?.map framed

end ConfigError

namespace Config

/-- The octets of a message unless a source tells otherwise. -/
def defaultMaxMessageSize : UInt64 := 16777216

/-- The connection unless a source tells otherwise. -/
def defaultConnection : String := ":memory:"

/-- The octets of a piece of data unless a source tells otherwise. -/
def defaultChunkSize : UInt64 := 5242880

/-- Accept or refuse the settings; the first fault in this order counts. -/
def validate (config : Config) : Except ConfigError Unit := do
  if (Storage.Engine.ofName? config.engine).isNone then throw (.unsupportedEngine config.engine)
  if config.chunkSize = 0 then throw .emptyChunks
  if config.maxMessageSize < config.chunkSize then
    throw (.oversizedChunks config.chunkSize config.maxMessageSize)
  if config.certificate.isSome ≠ config.privateKey.isSome then throw .unpairedIdentity

/-- What makes the settings of a configuration acceptable. -/
theorem validate_eq_ok {config : Config} :
    config.validate = .ok () ↔ (Storage.Engine.ofName? config.engine).isSome ∧ config.chunkSize ≠ 0 ∧
      config.chunkSize ≤ config.maxMessageSize ∧ config.certificate.isSome = config.privateKey.isSome := by
  rw [validate]
  simp only [bind, Except.bind, throw, throwThe, MonadExceptOf.throw, pure, Except.pure]
  by_cases known : (Storage.Engine.ofName? config.engine).isNone
  · simp [Option.isNone_iff_eq_none.mp known]
  · by_cases empty : config.chunkSize = 0
    · simp [known, empty]
    · by_cases long : config.maxMessageSize < config.chunkSize
      · simp [known, empty, long, UInt64.not_le.mpr long]
      · by_cases paired : config.certificate.isSome = config.privateKey.isSome
        · have supported : (Storage.Engine.ofName? config.engine).isSome :=
            Option.isSome_iff_ne_none.mpr (by simpa using known)
          have fits : config.chunkSize ≤ config.maxMessageSize := UInt64.not_lt.mp long
          simp [known, empty, long, paired, supported, fits]
        · simp [known, empty, long, paired]

def listenAddress (config : Config) : Except ConfigError SocketAddress :=
  match SocketAddress.read? (config.host ++ ":" ++ toString config.port) with
  | some address => .ok address
  | none => .error .badAddress

/-- The longest wait of a request for the store, in nanoseconds. -/
def waitCap (config : Config) : Option Nat :=
  config.backendWait.map fun milliseconds => milliseconds.toNat * 1000000

/-- The files of an identity that the server shows its clients. -/
structure IdentityFiles where
  certificate : String
  privateKey : String
  clientAuthority : Option String
  deriving DecidableEq

/-- The files that secure the connections; without both halves of an identity they are not secured. -/
def identityFiles? (config : Config) : Option IdentityFiles :=
  match config.certificate, config.privateKey with
  | some certificate, some privateKey => some ⟨certificate, privateKey, config.clientAuthority⟩
  | _, _ => none

/-- The settings that a command line gives. -/
structure Overrides where
  host : Option String
  port : Option UInt16
  backendWait : Option UInt64
  certificate : Option String
  privateKey : Option String
  clientAuthority : Option String
  engine : Option String
  connection : Option String
  chunkSize : Option UInt64
  deriving DecidableEq

def Overrides.none : Overrides :=
  ⟨.none, .none, .none, .none, .none, .none, .none, .none, .none⟩

/-- Put the settings of a command line over others. -/
def override (overrides : Overrides) (config : Config) : Config where
  host := overrides.host.getD config.host
  port := overrides.port.getD config.port
  backendWait := overrides.backendWait.or config.backendWait
  maxMessageSize := config.maxMessageSize
  certificate := overrides.certificate.or config.certificate
  privateKey := overrides.privateKey.or config.privateKey
  clientAuthority := overrides.clientAuthority.or config.clientAuthority
  engine := overrides.engine.getD config.engine
  connection := overrides.connection.getD config.connection
  chunkSize := overrides.chunkSize.getD config.chunkSize

private def orNull (encode : α → Json) : Option α → Json
  | some value => encode value
  | none => .null

/-- The settings in their groups, as they are shown. -/
def toJson (config : Config) : Json :=
  let number (value : UInt64) : Json := .integer value.toNat
  .object [
    ("server", .object [
      ("host", .string config.host),
      ("port", .integer config.port.toNat),
      ("backend_wait_timeout_ms", orNull number config.backendWait),
      ("max_message_size", number config.maxMessageSize),
      ("tls_cert", orNull .string config.certificate),
      ("tls_key", orNull .string config.privateKey),
      ("tls_client_ca", orNull .string config.clientAuthority)]),
    ("storage", .object [
      ("engine", .string config.engine),
      ("connection", .string config.connection)]),
    ("transfer", .object [("chunk_size", number config.chunkSize)])]

end Config

end ModelVault
