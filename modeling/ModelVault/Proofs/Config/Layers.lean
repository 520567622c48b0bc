import ModelVault.Config.Loading
import ModelVault.Proofs.Config.Writing

/-!
The settings of a configuration one by one. Each comes from the highest layer that gives it, whatever the layers
make of the others.
-/

namespace ModelVault.Config

/-- The settings of a server. -/
inductive Key where
  | host
  | port
  | backendWait
  | maxMessageSize
  | certificate
  | privateKey
  | clientAuthority
  | engine
  | connection
  | chunkSize
  deriving DecidableEq

namespace Key

abbrev Value : Key → Type
  | host | engine | connection => String
  | port => UInt16
  | backendWait => Option UInt64
  | maxMessageSize | chunkSize => UInt64
  | certificate | privateKey | clientAuthority => Option String

def group : Key → String
  | host | port | backendWait | maxMessageSize | certificate | privateKey | clientAuthority => "server"
  | engine | connection => "storage"
  | chunkSize => "transfer"

def name : Key → String
  | host => "host"
  | port => "port"
  | backendWait => "backend_wait_timeout_ms"
  | maxMessageSize => "max_message_size"
  | certificate => "tls_cert"
  | privateKey => "tls_key"
  | clientAuthority => "tls_client_ca"
  | engine => "engine"
  | connection => "connection"
  | chunkSize => "chunk_size"

def get : (key : Key) → Config → key.Value
  | host, config => config.host
  | port, config => config.port
  | backendWait, config => config.backendWait
  | maxMessageSize, config => config.maxMessageSize
  | certificate, config => config.certificate
  | privateKey, config => config.privateKey
  | clientAuthority, config => config.clientAuthority
  | engine, config => config.engine
  | connection, config => config.connection
  | chunkSize, config => config.chunkSize

/-- What a command line gives to a setting. The octets of a message are not among what it can give. -/
def override? : (key : Key) → Overrides → Option key.Value
  | host, overrides => overrides.host
  | port, overrides => overrides.port
  | backendWait, overrides => overrides.backendWait.map some
  | maxMessageSize, _ => none
  | certificate, overrides => overrides.certificate.map some
  | privateKey, overrides => overrides.privateKey.map some
  | clientAuthority, overrides => overrides.clientAuthority.map some
  | engine, overrides => overrides.engine
  | connection, overrides => overrides.connection
  | chunkSize, overrides => overrides.chunkSize

/-- What the value that a source gives comes to, or the default of the setting where none is given. -/
def convert? : (key : Key) → Option Setting → Option key.Value
  | host | engine => required? converting.text?
  | port => required? converting.port?
  | connection => orDefault? defaultConnection converting.text?
  | maxMessageSize => orDefault? defaultMaxMessageSize converting.count?
  | chunkSize => orDefault? defaultChunkSize converting.count?
  | backendWait => optional? converting converting.count?
  | certificate | privateKey | clientAuthority => optional? converting converting.text?

/-- A table or a list comes to nothing. -/
theorem convert?_of_isCompound (key : Key) {value : Setting} (compound : value.isCompound = true) :
    key.convert? (some value) = none := by
  cases value with
  | table members => cases key <;> rfl
  | list items => cases key <;> rfl
  | _ => cases compound

theorem convert?_absent (key : Key) {value : key.Value} (converted : key.convert? (some .absent) = some value) :
    key.convert? none = some value := by
  cases key <;> first | exact converted | cases converted

theorem convert?_of_found (key : Key) {found given : Option Setting} (kept : Setting.Found found given)
    {value : key.Value} (converted : key.convert? found = some value) : key.convert? given = some value := by
  rcases kept with rfl | compound | ⟨rfl, rfl⟩
  · exact converted
  · obtain ⟨old, rfl, compound⟩ := (Option.any_eq_true _ _).mp compound
    rw [key.convert?_of_isCompound compound] at converted
    cases converted
  · exact key.convert?_absent converted

/-- A command line changes what it gives, and no other setting. -/
theorem get_override (key : Key) (overrides : Overrides) (config : Config) :
    key.get (config.override overrides) = (key.override? overrides).getD (key.get config) := by
  have optional {α : Type} (given kept : Option α) : given.or kept = (given.map some).getD kept := by
    cases given <;> rfl
  cases key <;> first | rfl | exact optional _ _

end Key

open Setting (table at? displaces)

theorem group?_of_hasGroup {tree : Setting} {group : String} (grouped : tree.HasGroup group)
    (outer names : List String) :
    ∃ groups, converting.group? outer tree = some groups ∧
      (groups group).bind (converting.group? names) = some fun name => tree.at? group name := by
  obtain ⟨members, tabular⟩ := grouped
  cases tree with
  | table places =>
    refine ⟨_, rfl, Option.bind_eq_some_iff.mpr ⟨table members, ?_, ?_⟩⟩
    · rw [Setting.member, Setting.members] at tabular
      cases found : Setting.lookup? group places with
      | none => simp [found] at tabular
      | some value => simpa [found] using tabular
    · simp only [at?, tabular]
      rfl
  | _ => cases tabular

/-- A setting of a group that is a table is what the value under its name comes to. -/
theorem convert?_of_read {tree : Setting} {config : Config} (read : read? converting tree = some config) (key : Key)
    (grouped : tree.HasGroup key.group) : key.convert? (tree.at? key.group key.name) = some (key.get config) := by
  rw [read?] at read
  obtain ⟨groups, opened, read⟩ := Option.bind_eq_some_iff.mp read
  obtain ⟨server, served, read⟩ := Option.bind_eq_some_iff.mp read
  obtain ⟨storage, stored, read⟩ := Option.bind_eq_some_iff.mp read
  obtain ⟨transfer, transferred, read⟩ := Option.bind_eq_some_iff.mp read
  obtain ⟨host, hosted, read⟩ := Option.bind_eq_some_iff.mp read
  obtain ⟨port, ported, read⟩ := Option.bind_eq_some_iff.mp read
  obtain ⟨wait, waited, read⟩ := Option.bind_eq_some_iff.mp read
  obtain ⟨size, sized, read⟩ := Option.bind_eq_some_iff.mp read
  obtain ⟨certificate, certified, read⟩ := Option.bind_eq_some_iff.mp read
  obtain ⟨privateKey, keyed, read⟩ := Option.bind_eq_some_iff.mp read
  obtain ⟨authority, authorized, read⟩ := Option.bind_eq_some_iff.mp read
  obtain ⟨engine, driven, read⟩ := Option.bind_eq_some_iff.mp read
  obtain ⟨connection, connected, read⟩ := Option.bind_eq_some_iff.mp read
  obtain ⟨chunk, chunked, read⟩ := Option.bind_eq_some_iff.mp read
  cases read
  have found {names : List String} {values : String → Option Setting}
      (entered : (groups key.group).bind (converting.group? names) = some values) :
      values = fun name => tree.at? key.group name := by
    obtain ⟨_, reopened, given⟩ := group?_of_hasGroup grouped ["server", "storage", "transfer"] names
    cases opened.symm.trans reopened
    exact Option.some.inj (entered.symm.trans given)
  cases key
  case engine | connection =>
    cases found stored
    assumption
  case chunkSize =>
    cases found transferred
    exact chunked
  all_goals
    cases found served
    assumption

def ofValues (values : ∀ key : Key, key.Value) : Config where
  host := values .host
  port := values .port
  backendWait := values .backendWait
  maxMessageSize := values .maxMessageSize
  certificate := values .certificate
  privateKey := values .privateKey
  clientAuthority := values .clientAuthority
  engine := values .engine
  connection := values .connection
  chunkSize := values .chunkSize

/-- A tree whose groups are tables gives a configuration when all that is found for its settings comes to
something. -/
theorem read?_of_converted {tree : Setting} {values : ∀ key : Key, key.Value}
    (grouped : ∀ key : Key, tree.HasGroup key.group)
    (converted : ∀ key : Key, key.convert? (tree.at? key.group key.name) = some (values key)) :
    read? converting tree = some (ofValues values) := by
  obtain ⟨groups, opened, server⟩ := group?_of_hasGroup (grouped .host) ["server", "storage", "transfer"] serverNames
  obtain ⟨_, reopened, storage⟩ :=
    group?_of_hasGroup (grouped .engine) ["server", "storage", "transfer"] ["engine", "connection"]
  cases opened.symm.trans reopened
  obtain ⟨_, reopened, transfer⟩ :=
    group?_of_hasGroup (grouped .chunkSize) ["server", "storage", "transfer"] ["chunk_size"]
  cases opened.symm.trans reopened
  have found {α β : Type} {first : Option α} {value : α} {next : α → Option β} {result : β}
      (given : first = some value) (rest : next value = some result) : (first >>= next) = some result :=
    Option.bind_eq_some_iff.mpr ⟨value, given, rest⟩
  rw [read?]
  exact found opened <| found server <| found storage <| found transfer <| found (converted .host) <|
    found (converted .port) <| found (converted .backendWait) <| found (converted .maxMessageSize) <|
    found (converted .certificate) <| found (converted .privateKey) <| found (converted .clientAuthority) <|
    found (converted .engine) <| found (converted .connection) <| found (converted .chunkSize) rfl

theorem defaults_hasGroup (key : Key) : defaults.HasGroup key.group := by
  cases key <;> exact ⟨_, rfl⟩

/-- What is given to a setting below the command line: by the environment, else by the file, else by default. -/
def Key.given? (key : Key) (file environment : List (String × Setting)) : Option Setting :=
  (Setting.given? key.group key.name environment).or
    ((Setting.given? key.group key.name file).or (defaults.at? key.group key.name))

/-- The source puts nothing else than tables in the place of the setting's group. -/
def Key.Keyed (key : Key) (source : List (String × Setting)) : Prop :=
  ∀ entry ∈ source, displaces key.group entry = false

/-- At most one entry of the source gives something to the setting. -/
def Key.Unambiguous (key : Key) (source : List (String × Setting)) : Prop :=
  source.Pairwise fun first second =>
    Setting.entrySays? key.group key.name first = none ∨ Setting.entrySays? key.group key.name second = none

theorem isTable_value (text : String) : (Environment.value text).isTable = false := by
  rw [Environment.value]
  repeat' split
  all_goals rfl

/-- An environment gives no setting twice. -/
theorem Key.unambiguous_settings (key : Key) (environment : Environment) :
    key.Unambiguous (Environment.settings environment) := by
  have distinct : ((Environment.settings environment).map (·.1)).Nodup := (Setting.collect_spec _).1
  have plain : ∀ entry ∈ Environment.settings environment, entry.2.isTable = false := by
    intro entry present
    obtain ⟨_, _, given⟩ := List.mem_filterMap.mp ((Setting.collect_spec _).2 entry present)
    obtain ⟨_, _, rfl⟩ := Option.map_eq_some_iff.mp given
    exact isTable_value _
  refine (List.pairwise_map.mp distinct).imp_of_mem fun {first second} here there different => ?_
  by_cases silent : Setting.entrySays? key.group key.name first = none
  · exact .inl silent
  · refine .inr (Classical.byContradiction fun spoken => different ?_)
    rw [Setting.eq_of_entrySays? (plain first here) silent, Setting.eq_of_entrySays? (plain second there) spoken]

theorem Key.Keyed.arrange {key : Key} {source : List (String × Setting)} (keyed : key.Keyed source)
    (arrangement : Arrangement) : key.Keyed (arrangement.arrange source) :=
  fun entry present => keyed entry ((arrangement.perm source).mem_iff.mp present)

/-- The order of a source makes no difference to a setting that it does not give twice. -/
theorem Key.given?_arrange {key : Key} {file : List (String × Setting)} (once : key.Unambiguous file) (loader : Loader)
    (environment : Environment) :
    key.given? (loader.file.arrange file) (loader.environment.arrange (Environment.settings environment)) =
      key.given? file (Environment.settings environment) := by
  have fileSame := Setting.lastWord?_perm (loader.file.perm file).symm once
  have environmentSame := Setting.lastWord?_perm (loader.environment.perm _).symm (key.unambiguous_settings environment)
  simp only [Key.given?, Setting.given?, ← fileSame, ← environmentSame]

theorem found_merged {key : Key} {file environment : List (String × Setting)} (fileKeyed : key.Keyed file)
    (environmentKeyed : key.Keyed environment) :
    (merged file environment).HasGroup key.group ∧
      Setting.Found ((merged file environment).at? key.group key.name) (key.given? file environment) := by
  have ⟨grouped, found⟩ := Setting.found_writeAll (defaults_hasGroup key) fileKeyed
    (.inl (rfl : defaults.at? key.group key.name = _))
  exact Setting.found_writeAll grouped environmentKeyed found

end ModelVault.Config
