import ModelVault.Proofs.Config.Loading
import ModelVault.Proofs.Net.Addresses

/-!
What a configuration that was accepted is good for: its store is of an engine that there is, its address is taken
as far as its host is one, and its connections are secured when it has an identity, but not without one.
-/

namespace ModelVault

/-- The contents of a file, of which failures say what it was for. -/
def FileTree.readFor (doing path : String) (tree : FileTree) : Except Failure Bytes :=
  (tree.read path).mapError fun error => ⟨[doing], .file error⟩

theorem Act.run?_readFile {σ : Type} [Storage.Backend σ] (doing path : String) (here : Surroundings σ) :
    (Act.readFile doing path).run.run? Surroundings.answer here =
      (some (here.files.readFor doing path), here) := by
  change (Dialogue.ask (Effect.readFile path) fun reply => _).run? Surroundings.answer here = _
  rw [Dialogue.run?, Surroundings.answer, FileTree.readFor]
  cases here.files.read path <;> rfl

namespace Config

/-- A configuration that was loaded was accepted. -/
theorem validate_of_load {σ : Type} [Storage.Backend σ] {loader : Loader} {here : Surroundings σ}
    {environment : Environment} {arguments : ConfigArguments} {config : Config}
    (loaded : (here.perform (load loader environment arguments)).1 = some (.ok config)) :
    config.validate = .ok () := by
  obtain ⟨outcome, performed, layered⟩ := load_layered loader here environment arguments
  cases loaded.symm.trans performed
  cases present : below? loader (fileLayer? loader.formats here.files arguments.file) environment with
  | none => cases layered.unreadable present
  | some below =>
    cases checked : (below.override arguments.overrides).validate with
    | error error => cases layered.refused below error present checked
    | ok =>
      cases layered.accepted below present checked
      exact checked

/-- The contents of a file that need not be named. -/
def contentsOf? (tree : FileTree) : Option String → Except FileError (Option Bytes)
  | none => .ok none
  | some path => (tree.read path).map some

/-- The contents of the files of an identity, or the failure to read the first that cannot be read. -/
def IdentityFiles.contents (tree : FileTree) (files : IdentityFiles) : Except Failure Identity := do
  let certificate ← tree.readFor ("Failed to read TLS certificate " ++ files.certificate) files.certificate
  let privateKey ← tree.readFor ("Failed to read TLS key " ++ files.privateKey) files.privateKey
  match files.clientAuthority with
  | none => return ⟨certificate, privateKey, none⟩
  | some path => return ⟨certificate, privateKey, some (← tree.readFor ("Failed to read client CA " ++ path) path)⟩

theorem IdentityFiles.contents_eq_ok {tree : FileTree} {files : IdentityFiles} {identity : Identity}
    (chain : tree.read files.certificate = .ok identity.certificate)
    (secret : tree.read files.privateKey = .ok identity.privateKey)
    (authority : contentsOf? tree files.clientAuthority = .ok identity.clientAuthority) :
    files.contents tree = .ok identity := by
  obtain ⟨certificate, privateKey, clientAuthority⟩ := files
  obtain ⟨chainOctets, secretOctets, authorityOctets⟩ := identity
  simp only [contents, FileTree.readFor, chain, secret]
  cases clientAuthority with
  | none =>
    cases authority
    rfl
  | some path =>
    obtain ⟨octets, read, rfl⟩ : ∃ octets, tree.read path = .ok octets ∧ some octets = authorityOctets := by
      rw [contentsOf?] at authority
      cases read : tree.read path <;> rw [read] at authority <;> cases authority
      exact ⟨_, rfl, rfl⟩
    simp only [read]
    rfl

/-- The identity of a server is read from its files. -/
theorem run_readIdentity? {σ : Type} [Storage.Backend σ] {config : Config} {files : IdentityFiles}
    (named : config.identityFiles? = some files) (here : Surroundings σ) :
    config.readIdentity?.run.run? Surroundings.answer here = (some ((files.contents here.files).map some), here) := by
  rw [readIdentity?, named]
  simp only
  rw [Dialogue.run?_bind_eq, Act.run?_readFile, IdentityFiles.contents]
  cases here.files.readFor ("Failed to read TLS certificate " ++ files.certificate) files.certificate with
  | error failure => rfl
  | ok certificate =>
    simp only
    rw [Dialogue.run?_bind_eq, Act.run?_readFile]
    cases here.files.readFor ("Failed to read TLS key " ++ files.privateKey) files.privateKey with
    | error failure => rfl
    | ok privateKey =>
      cases files.clientAuthority with
      | none => rfl
      | some path =>
        have taken (doing : String) : (some <$> Act.readFile doing path).run.run? Surroundings.answer here =
            (some ((here.files.readFor doing path).map some), here) := by
          change (Dialogue.bind (Act.readFile doing path).run _).run? Surroundings.answer here = _
          rw [Dialogue.run?_bind, Act.run?_readFile]
          cases here.files.readFor doing path <;> rfl
        simp only
        rw [Dialogue.run?_bind_eq, taken]
        cases here.files.readFor ("Failed to read client CA " ++ path) path <;> rfl

/-- What a server can count on in its configuration. -/
structure Servable (config : Config) : Prop where
  /-- The store is of an engine that there is. -/
  engine (connect? : String → Option Storage.Database) (engine : String) :
    Storage.Store.create connect? config.engine config.connection ≠ .error (.fault (.unsupportedEngine engine))
  /-- The host alone decides whether there is an address to listen on, and its port is that of the configuration. -/
  address : config.listenAddress = match SocketAddress.ofHost? config.host with
    | some make => .ok (make config.port)
    | none => .error .badAddress
  /-- With a certificate or its key the server has an identity or fails, and files that can be read give one of their
  contents. The authority over clients is part of the identity if there is one. -/
  secured : config.certificate.isSome ∨ config.privateKey.isSome →
    ∃ certificate privateKey, config.certificate = some certificate ∧ config.privateKey = some privateKey ∧
      ∀ (σ : Type) [Storage.Backend σ] (there : Surroundings σ),
        (there.perform config.readIdentity?).1 ≠ some (.ok none) ∧
        ∀ identity : Identity, there.files.read certificate = .ok identity.certificate →
          there.files.read privateKey = .ok identity.privateKey →
          contentsOf? there.files config.clientAuthority = .ok identity.clientAuthority →
          (there.perform config.readIdentity?).1 = some (.ok (some identity))
  /-- Without a certificate, connections are not secured, whatever authority over clients is given. -/
  unsecured : config.certificate = none → ∀ (σ : Type) [Storage.Backend σ] (there : Surroundings σ),
    (there.perform config.readIdentity?).1 = some (.ok none)

theorem servable_of_validate {config : Config} (accepted : config.validate = .ok ()) : Servable config where
  engine connect? engine := by
    obtain ⟨known, -⟩ := validate_eq_ok.mp accepted
    obtain ⟨kind, named⟩ := Option.isSome_iff_exists.mp known
    rw [Storage.Store.create, named]
    intro same
    cases kind with
    | memory => cases same
    | duckdb =>
      simp only at same
      split at same <;> cases same
  address := by
    rw [listenAddress, SocketAddress.read?_host]
    cases SocketAddress.ofHost? config.host <;> rfl
  secured given := by
    obtain ⟨-, -, -, paired⟩ := validate_eq_ok.mp accepted
    obtain ⟨certificate, certified⟩ : ∃ certificate, config.certificate = some certificate := by
      rw [← paired, or_self] at given
      exact Option.isSome_iff_exists.mp given
    obtain ⟨privateKey, keyed⟩ : ∃ privateKey, config.privateKey = some privateKey := by
      rw [certified] at paired
      exact Option.isSome_iff_exists.mp paired.symm
    refine ⟨certificate, privateKey, certified, keyed, fun σ _ there => ?_⟩
    have named : config.identityFiles? = some ⟨certificate, privateKey, config.clientAuthority⟩ := by
      rw [identityFiles?, certified, keyed]
    have read (here : Surroundings σ) := congrArg Prod.fst (run_readIdentity? named here)
    rw [Surroundings.perform, read]
    refine ⟨?_, fun identity chain secret authority => ?_⟩
    · intro same
      cases read : IdentityFiles.contents there.files ⟨certificate, privateKey, config.clientAuthority⟩ <;>
        rw [read] at same <;> cases same
    · exact congrArg (some ∘ Except.map some) (IdentityFiles.contents_eq_ok chain secret authority)
  unsecured missing σ _ there := by
    rw [Surroundings.perform, readIdentity?, identityFiles?, missing]
    rfl

/-- A configuration that was loaded can be served as far as its host is an address and its authority over clients
comes with a certificate. -/
theorem load_servable {σ : Type} [Storage.Backend σ] {loader : Loader} {here : Surroundings σ}
    {environment : Environment} {arguments : ConfigArguments} {config : Config}
    (loaded : (here.perform (load loader environment arguments)).1 = some (.ok config)) : Servable config :=
  servable_of_validate (validate_of_load loaded)

/-- A host of groups, with a certificate and an authority over clients. -/
theorem load_servable_groups :
    ((Surroundings.ofFiles []).perform (load .standard [] ⟨none,
        ⟨some "[::1]", none, none, some "cert.pem", some "key.pem", some "ca.pem", none, none, none⟩⟩)).1 =
      some (.ok ⟨"[::1]", 9002, none, 16777216, some "cert.pem", some "key.pem", some "ca.pem", "duckdb", ":memory:",
        5242880⟩) ∧
    Servable ⟨"[::1]", 9002, none, 16777216, some "cert.pem", some "key.pem", some "ca.pem", "duckdb", ":memory:",
      5242880⟩ := by
  have loaded := perform_load (Surroundings.ofFiles []) .standard []
    ⟨none, ⟨some "[::1]", none, none, some "cert.pem", some "key.pem", some "ca.pem", none, none, none⟩⟩
  exact ⟨loaded, load_servable loaded⟩

/-- An authority over clients without a certificate is accepted, and connections are not secured although its file
can be read. A host that is a name is accepted, and there is no address to listen on. -/
theorem load_accepts_unservable :
    (∃ config, ((Surroundings.ofFiles [("ca.pem", [])]).perform (load .standard [] ⟨none,
        ⟨none, none, none, none, none, some "ca.pem", none, none, none⟩⟩)).1 = some (.ok config) ∧
      config.clientAuthority = some "ca.pem" ∧
      contentsOf? (Surroundings.ofFiles [("ca.pem", [])]).files config.clientAuthority = .ok (some []) ∧
      ((Surroundings.ofFiles [("ca.pem", [])]).perform config.readIdentity?).1 = some (.ok none)) ∧
    ∃ config, ((Surroundings.ofFiles []).perform (load .standard [] ⟨none,
        ⟨some "localhost", none, none, none, none, none, none, none, none⟩⟩)).1 = some (.ok config) ∧
      config.listenAddress = .error .badAddress := by
  refine ⟨⟨_, perform_load _ _ _ _, rfl, ?_, rfl⟩, _, perform_load _ _ _ _, by decide +kernel⟩
  have read : FileTree.read "ca.pem" (.ofFiles [("ca.pem", [])]) = .ok [] :=
    FileTree.read_ofFiles [] (by decide) (by simp) (by decide +kernel)
  exact congrArg (Except.map some) read

end Config

end ModelVault
