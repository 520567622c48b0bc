import ModelVault.CommandLine.Execution
import ModelVault.CommandLine.Surroundings
import ModelVault.Proofs.Client.Asking
import ModelVault.Proofs.Config.Layers

/-!
Loading a configuration. It fails when the layers below the command line cannot be read and when what comes of all
layers is not acceptable, and what it gives has each setting of the highest layer that gives one.
-/

namespace ModelVault

theorem Act.run?_ask {σ : Type} (answer : (effect : Effect) → σ → Option effect.Reply × σ) (effect : Effect)
    (state : σ) :
    (Act.ask effect).run.run? answer state = ((answer effect state).1.map .ok, (answer effect state).2) := by
  change (Dialogue.ask effect fun reply =>
    .done (Except.ok reply) : Dialogue Effect Effect.Reply (Except Failure _)).run? answer state = _
  rw [Dialogue.run?]
  rcases answer effect state with ⟨none | reply, after⟩ <;> rfl

namespace Config

def failed (error : ConfigError) : Failure :=
  ⟨[], .config error⟩

/-- The settings of the file that a command line names, if there is one that can be read. Where none is named there
are no settings. -/
def fileLayer? (formats : List FileFormat) (tree : FileTree) : Option String → Option (List (String × Setting))
  | none => some []
  | some name => do
    let path ← (fileNames formats name).find? tree.holds
    let contents ← (tree.read path).toOption
    fileSettings? formats path contents

def Loader.merged (loader : Loader) (file : List (String × Setting)) (environment : Environment) : Setting :=
  Config.merged (loader.file.arrange file) (loader.environment.arrange (Environment.settings environment))

/-- The configuration below the command line, if it can be read. -/
def below? (loader : Loader) (file? : Option (List (String × Setting))) (environment : Environment) : Option Config :=
  file?.bind fun file => read? converting (loader.merged file environment)

/-- What the layers come to: the configuration below the command line with the settings of the command line over it,
if that is acceptable. -/
def outcome (loader : Loader) (file? : Option (List (String × Setting))) (environment : Environment)
    (overrides : Overrides) : Except Failure Config :=
  match below? loader file? environment with
  | none => .error (failed .unreadable)
  | some below => ((below.override overrides).validate.map fun () => below.override overrides).mapError failed

theorem mapError_resolve (loader : Loader) (file : List (String × Setting)) (environment : Environment)
    (overrides : Overrides) :
    (resolve (loader.file.arrange file) (loader.environment.arrange (Environment.settings environment))
      overrides).mapError failed = outcome loader (some file) environment overrides := by
  rw [resolve, outcome, below?, Option.bind_some, Loader.merged]
  cases read? converting (Config.merged (loader.file.arrange file)
    (loader.environment.arrange (Environment.settings environment))) <;> rfl

section Running

variable {σ : Type} [Storage.Backend σ]

theorem run_findFile? (names : List String) (here : Surroundings σ) :
    (findFile? names).run.run? Surroundings.answer here = (some (.ok (names.find? here.files.holds)), here) := by
  induction names with
  | nil => rfl
  | cons name rest ih =>
    rw [findFile?, Dialogue.run?_bind_eq, List.find?_cons]
    change (if here.files.holds name = true then _ else _ : Act (Option String)).run.run? _ _ = _
    cases holds : here.files.holds name with
    | true => rfl
    | false => exact ih

/-- Reading the file of a command line changes nothing, and fails when there is none that can be read. -/
theorem run_fileEntries (formats : List FileFormat) (name : String) (here : Surroundings σ) :
    (fileEntries formats name).run.run? Surroundings.answer here =
      (some (match fileLayer? formats here.files (some name) with
        | some entries => .ok entries
        | none => .error (failed .unreadable)), here) := by
  rw [fileEntries, fileLayer?, Dialogue.run?_bind_eq, run_findFile?]
  cases found : (fileNames formats name).find? here.files.holds with
  | none => rfl
  | some path =>
    simp only [Option.bind_eq_bind, Option.bind_some]
    rw [Dialogue.run?_bind_eq, Act.run?_ask, Surroundings.answer]
    cases here.files.read path with
    | error error => rfl
    | ok contents =>
      simp only [Except.toOption, Option.map_some, Option.bind_some]
      cases fileSettings? formats path contents <;> rfl

/-- Loading changes nothing, and comes to what the layers come to. -/
theorem run_load (loader : Loader) (environment : Environment) (arguments : ConfigArguments) (here : Surroundings σ) :
    (load loader environment arguments).run.run? Surroundings.answer here =
      (some (outcome loader (fileLayer? loader.formats here.files arguments.file) environment arguments.overrides),
        here) := by
  have ended (file : List (String × Setting)) (there : Surroundings σ) :
      (Act.ofExcept .config (resolve (loader.file.arrange file)
        (loader.environment.arrange (Environment.settings environment)) arguments.overrides)).run.run?
        Surroundings.answer there = (some (outcome loader (some file) environment arguments.overrides), there) := by
    rw [← mapError_resolve]
    cases resolve (loader.file.arrange file) (loader.environment.arrange (Environment.settings environment))
      arguments.overrides <;> rfl
  rw [load]
  cases arguments.file with
  | none => exact ended [] here
  | some name =>
    simp only
    rw [Dialogue.run?_bind_eq, run_fileEntries]
    cases fileLayer? loader.formats here.files (some name) with
    | none => rfl
    | some file => exact ended file here

theorem perform_load (here : Surroundings σ) (loader : Loader) (environment : Environment)
    (arguments : ConfigArguments) : (here.perform (load loader environment arguments)).1 =
      some (outcome loader (fileLayer? loader.formats here.files arguments.file) environment arguments.overrides) := by
  rw [Surroundings.perform, run_load]

end Running

end Config

theorem FileTree.read_ofFiles {name : String} {contents : Bytes} (others : List (String × Bytes))
    (nonempty : name.isEmpty = false) (valid : name.contains '\x00' = false)
    (plain : Place.endsAsDirectory name = false) :
    (FileTree.ofFiles ((name, contents) :: others)).read name = .ok contents := by
  have placed : (FileTree.ofFiles ((name, contents) :: others)).entry (Place.ofName name) = .file contents := by
    rw [entry, ofFiles, List.map_cons, List.find?_cons, decide_eq_true rfl]
  simp [read, nonempty, valid, placed, plain]

/-- Surroundings that hold some files, and nothing else of interest to a server's configuration. -/
def Surroundings.ofFiles (files : List (String × Bytes)) : Surroundings Storage.Store where
  files := .ofFiles files
  database? := fun _ => none
  secures := fun _ => false
  endpoint := ""
  session := .new ⟨1, none, 0⟩ ⟨0, 0⟩ (.new .memory) true
  output := []
  notes := ""

namespace Environment

variable {text : String}

theorem value_integer {number : Int} (unflagged : text.toLower ≠ "true" ∧ text.toLower ≠ "false")
    (numbered : (Text.signed? text.toLower).filter (IsInt64 ·) = some number) : value text = .integer number := by
  simp [value, unflagged, numbered]

theorem value_text (unflagged : text.toLower ≠ "true" ∧ text.toLower ≠ "false")
    (unnumbered : (Text.signed? text.toLower).filter (IsInt64 ·) = none ∧ Binary64.ofText? text.toLower = none) :
    value text = .text text := by
  simp [value, unflagged, unnumbered]

end Environment

namespace Config

theorem fileLayer?_ofFiles (formats : List FileFormat) {name : String} {contents : Bytes}
    (others : List (String × Bytes)) (nonempty : name.isEmpty = false) (valid : name.contains '\x00' = false)
    (plain : Place.endsAsDirectory name = false) :
    fileLayer? formats (FileTree.ofFiles ((name, contents) :: others)) (some name) =
      fileSettings? formats name contents := by
  have read : FileTree.read name (.ofFiles ((name, contents) :: others)) = .ok contents :=
    FileTree.read_ofFiles others nonempty valid plain
  have holds : (FileTree.ofFiles ((name, contents) :: others)).holds name = true := by rw [FileTree.holds, read]; rfl
  rw [fileLayer?, fileNames, List.find?_cons, holds]
  simp [read, Except.toOption]

theorem fileLayer?_settings (contents : String) :
    fileLayer? Loader.standard.formats (Surroundings.ofFiles [("settings.toml", Bytes.ofText contents)]).files
      (some "settings.toml") = Toml.read? contents := by
  have format : extension "settings.toml" = "toml" := by decide +kernel
  have layer : fileLayer? Loader.standard.formats (FileTree.ofFiles [("settings.toml", Bytes.ofText contents)])
      (some "settings.toml") = fileSettings? Loader.standard.formats "settings.toml" (Bytes.ofText contents) :=
    fileLayer?_ofFiles _ [] (by decide) (by simp) (by decide +kernel)
  rw [fileSettings?, Bytes.text?_ofText, format] at layer
  exact layer

def loaded? (here : Surroundings Storage.Store) (environment : Environment) (arguments : ConfigArguments) :
    Option Config :=
  (here.perform (load .standard environment arguments)).1.bind (·.toOption)

theorem loaded?_eq {environment : Environment} {settings : List (String × Setting)}
    (given : Environment.settings environment = settings) (here : Surroundings Storage.Store)
    (arguments : ConfigArguments) : loaded? here environment arguments =
      (fileLayer? Loader.standard.formats here.files arguments.file).bind fun file =>
        (resolve file settings arguments.overrides).toOption := by
  rw [loaded?, perform_load]
  cases fileLayer? Loader.standard.formats here.files arguments.file with
  | none => rfl
  | some file =>
    rw [← mapError_resolve, given]
    change ((resolve file settings arguments.overrides).mapError failed).toOption = (resolve file settings _).toOption
    cases resolve file settings arguments.overrides <;> rfl

/-- What the layers below the command line, read from a file and an environment, and those of a command line come
to. -/
structure Layered (loader : Loader) (file? : Option (List (String × Setting))) (environment : Environment)
    (overrides : Overrides) (outcome : Except Failure Config) : Prop where
  /-- It fails when the layers below the command line cannot be read. -/
  unreadable : below? loader file? environment = none → outcome = .error (failed .unreadable)
  /-- It fails when what comes of all layers is refused. -/
  refused (below : Config) (error : ConfigError) : below? loader file? environment = some below →
    (below.override overrides).validate = .error error → outcome = .error (failed error)
  /-- Else it does not fail. -/
  accepted (below : Config) : below? loader file? environment = some below →
    (below.override overrides).validate = .ok () → outcome = .ok (below.override overrides)
  /-- Each setting is that of the highest layer that gives it, where of several values in one layer the last that is
  written counts. -/
  setting (file : List (String × Setting)) (below : Config) : file? = some file →
    below? loader file? environment = some below →
    ∀ key : Key, key.Keyed file → key.Keyed (Environment.settings environment) →
    some (key.get (below.override overrides)) = (key.override? overrides).or (key.convert?
      (key.given? (loader.file.arrange file) (loader.environment.arrange (Environment.settings environment))))
  /-- The orders in which the layers are written make no difference to a setting that the file does not give twice;
  an environment gives none twice. -/
  ordered (file : List (String × Setting)) : file? = some file → ∀ key : Key, key.Unambiguous file →
    key.given? (loader.file.arrange file) (loader.environment.arrange (Environment.settings environment)) =
      key.given? file (Environment.settings environment)
  /-- The layers below the command line can be read when all that is found for the settings comes to something. -/
  legible (file : List (String × Setting)) : file? = some file →
    (∀ key : Key, key.Keyed file ∧ key.Keyed (Environment.settings environment)) →
    ((below? loader file? environment).isSome ↔
      ∀ key : Key, (key.convert? ((loader.merged file environment).at? key.group key.name)).isSome)

theorem outcome_layered (loader : Loader) (file? : Option (List (String × Setting))) (environment : Environment)
    (overrides : Overrides) :
    Layered loader file? environment overrides (outcome loader file? environment overrides) where
  unreadable missing := by
    rw [outcome, missing]
  refused below error present refused := by
    rw [outcome, present]
    simp only [refused]
    rfl
  accepted below present accepted := by
    rw [outcome, present]
    simp only [accepted]
    rfl
  setting file below same present key fileKeyed environmentKeyed := by
    subst same
    rw [below?, Option.bind_some] at present
    have ⟨grouped, found⟩ := found_merged (fileKeyed.arrange loader.file) (environmentKeyed.arrange loader.environment)
    rw [key.get_override, key.convert?_of_found found (convert?_of_read present key grouped)]
    cases key.override? overrides <;> rfl
  ordered file _ key once := key.given?_arrange once loader environment
  legible file same keyed := by
    subst same
    rw [below?, Option.bind_some]
    have grouped (key : Key) := (found_merged ((keyed key).1.arrange loader.file)
      ((keyed key).2.arrange loader.environment)).1
    constructor
    · intro present key
      obtain ⟨below, present⟩ := Option.isSome_iff_exists.mp present
      rw [convert?_of_read present key (grouped key)]
      rfl
    · intro converted
      exact Option.isSome_of_eq_some (read?_of_converted grouped fun key => (Option.some_get (converted key)).symm)

/-- Loading comes to what the layers come to, in whatever surroundings, whatever the formats of files are and in
whatever orders the layers are written. -/
theorem load_layered {σ : Type} [Storage.Backend σ] (loader : Loader) (here : Surroundings σ)
    (environment : Environment) (arguments : ConfigArguments) :
    ∃ outcome, (here.perform (load loader environment arguments)).1 = some outcome ∧
      Layered loader (fileLayer? loader.formats here.files arguments.file) environment arguments.overrides outcome :=
  ⟨_, perform_load here loader environment arguments, outcome_layered _ _ _ _⟩

/-- A setting that a file gives twice has the value that is written last, whichever that is. -/
example :
    let entry : String × Setting := ("server.port", .integer 1)
    let group : String × Setting := ("server", .table [("port", .integer 2)])
    Key.port.given? [entry, group] [] = some (.integer 2) ∧ Key.port.given? [group, entry] [] = some (.integer 1) :=
  ⟨rfl, rfl⟩

theorem port_settings : Environment.settings [("MODEL_REGISTRY_SERVER__PORT", "70000")] =
    [("server.port", .integer 70000)] := by
  have port : Environment.value "70000" = .integer 70000 :=
    Environment.value_integer (by decide +kernel) (by decide +kernel)
  have key : Environment.key? "MODEL_REGISTRY_SERVER__PORT" = some "server.port" := by decide +kernel
  simp [Environment.settings, Setting.collect, Setting.put, key, port]

theorem address_settings : Environment.settings
    [("MODEL_REGISTRY_SERVER__HOST", "127.0.0.2"), ("MODEL_REGISTRY_SERVER__PORT", "80")] =
      [("server.host", .text "127.0.0.2"), ("server.port", .integer 80)] := by
  have host : Environment.value "127.0.0.2" = .text "127.0.0.2" :=
    Environment.value_text (by decide +kernel) (by decide +kernel)
  have port : Environment.value "80" = .integer 80 :=
    Environment.value_integer (by decide +kernel) (by decide +kernel)
  have keys : Environment.key? "MODEL_REGISTRY_SERVER__HOST" = some "server.host" ∧
      Environment.key? "MODEL_REGISTRY_SERVER__PORT" = some "server.port" := by
    decide +kernel
  simp [Environment.settings, Setting.collect, Setting.put, keys, host, port]

/-- All four layers take part, and a size that would be refused is given in a layer below another. -/
theorem load_layered_four_layers :
    ∃ outcome, ((Surroundings.ofFiles [("settings.toml", Bytes.ofText
        "[storage]\nconnection = \"a.db\"\n[transfer]\nchunk_size = \"0\"\n")]).perform
        (load .standard [("MODEL_REGISTRY_SERVER__HOST", "127.0.0.2"), ("MODEL_REGISTRY_SERVER__PORT", "80")]
          ⟨some "settings.toml", ⟨none, none, none, none, none, none, none, none, some 10⟩⟩)).1 = some outcome ∧
      outcome = .ok ⟨"127.0.0.2", 80, none, 16777216, none, none, none, "duckdb", "a.db", 10⟩ := by
  obtain ⟨outcome, performed, layered⟩ := load_layered .standard
    (Surroundings.ofFiles [("settings.toml", Bytes.ofText
      "[storage]\nconnection = \"a.db\"\n[transfer]\nchunk_size = \"0\"\n")])
    [("MODEL_REGISTRY_SERVER__HOST", "127.0.0.2"), ("MODEL_REGISTRY_SERVER__PORT", "80")]
    ⟨some "settings.toml", ⟨none, none, none, none, none, none, none, none, some 10⟩⟩
  rw [fileLayer?_settings] at layered
  have read : below? .standard
      (Toml.read? "[storage]\nconnection = \"a.db\"\n[transfer]\nchunk_size = \"0\"\n")
      [("MODEL_REGISTRY_SERVER__HOST", "127.0.0.2"), ("MODEL_REGISTRY_SERVER__PORT", "80")] =
        some ⟨"127.0.0.2", 80, none, 16777216, none, none, none, "duckdb", "a.db", 0⟩ := by
    simp only [below?, Loader.merged, address_settings]
    decide +kernel
  exact ⟨outcome, performed, layered.accepted _ read (by rfl)⟩

/-- A port is not always the number that the highest layer gives, and a setting is not independent of others: the
wait and the size of a list are gone once the environment gives a host and a port. -/
theorem load_reduces_port_and_drops_list :
    Key.port.given? [] (Environment.settings [("MODEL_REGISTRY_SERVER__PORT", "70000")]) = some (.integer 70000) ∧
      (loaded? (Surroundings.ofFiles []) [("MODEL_REGISTRY_SERVER__PORT", "70000")] ⟨none, Overrides.none⟩).map
        (·.port.toNat) = some 4464 ∧
      (loaded? (Surroundings.ofFiles [("settings.toml", Bytes.ofText
          "server = [\"127.0.0.1\", \"9002\", \"5\", \"7000000\"]\n")]) []
          ⟨some "settings.toml", Overrides.none⟩).map
        (fun config => (config.backendWait, config.maxMessageSize)) = some (some 5, 7000000) ∧
      (loaded? (Surroundings.ofFiles [("settings.toml", Bytes.ofText
          "server = [\"127.0.0.1\", \"9002\", \"5\", \"7000000\"]\n")])
          [("MODEL_REGISTRY_SERVER__HOST", "127.0.0.2"), ("MODEL_REGISTRY_SERVER__PORT", "80")]
          ⟨some "settings.toml", Overrides.none⟩).map
        (fun config => (config.host, config.port, config.backendWait, config.maxMessageSize)) =
          some ("127.0.0.2", 80, none, 16777216) := by
  rw [loaded?_eq port_settings, loaded?_eq (rfl : Environment.settings [] = []), loaded?_eq address_settings,
    fileLayer?_settings, port_settings]
  exact ⟨rfl, by decide +kernel, by decide +kernel, by decide +kernel⟩

end Config

end ModelVault
