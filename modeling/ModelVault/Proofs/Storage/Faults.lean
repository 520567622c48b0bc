import ModelVault.Proofs.Storage.Numbers

/-!
Where tables fail of themselves. Nobody but the engine has changed their rows, so what a read looks for is
there and can be read, and no insertion meets a row with its key. Two causes of a fault are left: the numbers
of a model can run out, and a time may have no count in 64 bits.
-/

namespace ModelVault.Storage

section Missing

variable {models : Std.ExtTreeMap String StoredModel} {modelId : String} {cause : StorageFault}

private theorem model_not_fault : (NestedStore.live models).model modelId ≠ .error (.fault cause) := by
  rw [NestedStore.model]
  cases models[modelId]? with
  | none => simp
  | some model => simp

private theorem version_not_fault {number : UInt32} :
    ((NestedStore.live models).model modelId >>= (·.version modelId number)) ≠ .error (.fault cause) := by
  rw [NestedStore.model]
  cases models[modelId]? with
  | none => simp [bind, Except.bind]
  | some model =>
    simp only [bind, Except.bind, StoredModel.version]
    split
    · simp
    · split <;> simp

private theorem error_of_map {α β : Type} {result : Except StoreError α} {told : α → β} {refusal : StoreError}
    (failed : result.map told = .error refusal) : result = .error refusal := by
  cases result with
  | ok value => cases failed
  | error other => rw [Except.error.inj failed]

end Missing

namespace Store

variable {store : Store} {call : Call} {cause : StorageFault}

/-- The faults that are left, with the calls that meet them. -/
inductive Faults (store : Store) : Call → StorageFault → Prop where
  /-- The model has handed out its last number, and the draft names no version that exists. -/
  | exhausted (modelId : String) (draft : VersionDraft) (last : (store.model modelId).latest = maxVersionNumber)
    (new : draft.number ∉ (store.model modelId).versions) :
    Faults store (.putVersion modelId draft) (.numbersExhausted modelId)
  /-- There is a number for the draft, but its time has no count. -/
  | untimely (modelId : String) (draft : VersionDraft) (number : UInt32)
    (assigned : assignNumber modelId (store.model modelId).latest draft.number
      ((store.model modelId).versions.contains draft.number) = .ok number)
    (uncounted : store.kept? draft.createdAt = none) :
    Faults store (.putVersion modelId draft) (.timeOutOfRange draft.createdAt)

private theorem faults_of_assignNumber (sound : store.Sound) {modelId : String} {draft : VersionDraft}
    (refused : assignNumber modelId (store.model modelId).latest draft.number
      ((store.model modelId).versions.contains draft.number) = .error (.fault cause)) :
    store.Faults (.putVersion modelId draft) cause := by
  rw [assignNumber] at refused
  split at refused
  · cases refused
  · next new =>
    split at refused
    · next last =>
      cases refused
      refine .exhausted modelId draft last fun present => new ⟨?_, Std.ExtTreeMap.mem_iff_contains.mp present⟩
      rintro zero
      have bound := ((sound.model modelId).handedOut draft.number present).1
      simp [zero] at bound
    · split at refused <;> cases refused

private theorem question_not_fault (sound : store.Sound) (opened : store.isOpen = true)
    (question : call.isQuestion = true) : (store.perform call).1 ≠ .error (.fault cause) := by
  intro failed
  cases call with
  | modelInfo modelId =>
    rw [perform_modelInfo sound opened] at failed
    exact model_not_fault (error_of_map failed)
  | hasModel modelId =>
    rw [perform_hasModel sound opened] at failed
    cases failed
  | listModels offset limit =>
    cases store with
    | nested store =>
      cases store with
      | destroyed => cases opened
      | live models => cases failed
    | tabular store =>
      obtain ⟨isOpen, tables⟩ := store
      cases opened
      cases failed
  | versionInfo modelId number =>
    rw [perform_versionInfo sound opened] at failed
    exact version_not_fault (error_of_map failed)
  | versionData modelId number =>
    rw [perform_versionData sound opened] at failed
    exact version_not_fault (error_of_map failed)
  | listVersions modelId first limit =>
    rw [perform_listVersions sound opened, NestedStore.listVersions] at failed
    exact model_not_fault (error_of_map failed)
  | _ => cases question

/-- What putting a version is served with when there is a number for it, but no time that can be kept. -/
private theorem Served.of_untimely {modelId : String} {draft : VersionDraft}
    {reply : (Call.putVersion modelId draft).Reply} {models : Std.ExtTreeMap String StoredModel}
    (served : store.Served (.putVersion modelId draft) reply models) {result : VersionInfo × StoredModel}
    (untimely : store.kept? draft.createdAt = none)
    (accepted : (store.model modelId).putVersion modelId draft = .ok result) :
    reply = .error (.fault (.timeOutOfRange draft.createdAt)) := by
  cases served with
  | asked _ _ question => cases question
  | versionPut _ _ time info model timely stored =>
    rw [untimely] at timely
    cases timely
  | versionRefused _ _ refusal refused =>
    rw [accepted] at refused
    cases refused
  | versionUntimely => rfl

/-- A call fails of itself exactly in these two ways, and only while the store is open. -/
theorem fault_iff (sound : store.Sound) :
    (store.perform call).1 = .error (.fault cause) ↔ store.isOpen = true ∧ store.Faults call cause := by
  constructor
  · intro failed
    have lasting : call ≠ .destroy := by
      rintro rfl
      cases store with
      | nested store => cases failed
      | tabular store => cases failed
    cases opened : store.isOpen with
    | false =>
      rw [perform_closed opened lasting] at failed
      cases failed
    | true =>
      refine ⟨rfl, ?_⟩
      have served := (perform_served sound opened lasting).1
      rw [failed] at served
      revert served
      generalize (store.perform call).2.contents = models
      intro served
      cases served with
      | asked _ _ question => exact absurd failed (question_not_fault sound opened question)
      | versionRefused modelId draft _ refused =>
        exact faults_of_assignNumber sound (StoredModel.putVersion_eq_error.mp refused)
      | versionUntimely modelId draft result untimely accepted =>
        obtain ⟨number, assigned, _⟩ := StoredModel.putVersion_eq_ok.mp accepted
        exact .untimely modelId draft number assigned untimely
      | versionUnknown modelId number _ refused => exact absurd refused version_not_fault
  · rintro ⟨opened, faults⟩
    cases faults with
    | exhausted modelId draft last new => exact exhausted_refuses sound opened last new
    | untimely modelId draft number assigned uncounted =>
      have lasting : Call.putVersion modelId draft ≠ .destroy := nofun
      exact (perform_served sound opened lasting).1.of_untimely uncounted
        (StoredModel.putVersion_eq_ok.mpr ⟨number, assigned, rfl, rfl⟩)

end Store

/-- Tables on which no statement fails: every row is as the engine writes it and is found where it is looked
for, and every insertion finds its key free. -/
structure TableStore.Dependable (store : TableStore) : Prop where
  modelKeys : (store.tables.models.map (·.id)).Nodup
  versionKeys : (store.tables.versions.map fun row => (row.modelId, row.number)).Nodup
  /-- A version has the size of its data, and a model that has handed out its number. -/
  owned : ∀ row ∈ store.tables.versions, row.size = row.data.length ∧ ∃ model ∈ store.tables.models,
    model.id = row.modelId ∧ 1 ≤ row.number ∧ row.number ≤ model.latest ∧
      model.latest ≤ maxVersionNumber.toNat
  modelsRead : ∀ row ∈ store.tables.models, ∃ info, row.info = .ok info
  versionsRead : ∀ row ∈ store.tables.versions, ∃ info, row.info = .ok info
  /-- The number that a request is resolved to has a row, and that is the one retrieved. -/
  resolved : ∀ modelId requested number, store.tables.resolve modelId requested = .ok number →
    ∃ row ∈ store.tables.versions, store.tables.resolvedRow modelId requested = .ok row ∧
      row.modelId = modelId ∧ row.number = (number.toNat : Int)
  /-- A row for a model is inserted where there is none, -/
  modelInserted : ∀ modelId, store.tables.modelInfo? modelId = .ok none →
    modelId ∉ store.tables.models.map (·.id)
  /-- and so is a row for a version that gets a new number, be its model known or not. -/
  versionInserted : ∀ modelId known requested number, store.tables.modelInfo? modelId = .ok known →
    assignNumber modelId ((known.map ModelInfo.latest).getD 0) requested false = .ok number →
      (modelId, (number.toNat : Int)) ∉ store.tables.versions.map fun row => (row.modelId, row.number)
  /-- Two faults are left. -/
  faults : ∀ call cause, (store.perform call).1 = .error (.fault cause) ↔
    store.isOpen = true ∧ (Store.tabular store).Faults call cause

namespace Tables

variable {tables : Tables}

private theorem not_mem_models_of_modelInfo? {modelId : String} (unknown : tables.modelInfo? modelId = .ok none) :
    modelId ∉ tables.models.map (·.id) := by
  intro listed
  obtain ⟨row, member, same⟩ := List.mem_map.mp listed
  rw [modelInfo?] at unknown
  cases found : tables.modelRow? modelId with
  | none => simpa [same] using List.find?_eq_none.mp found row member
  | some other =>
    rw [found] at unknown
    cases read : other.info with
    | ok info => simp [read, Except.map] at unknown
    | error refusal => simp [read, Except.map] at unknown

namespace WellFormed

private theorem resolvedRow_of_resolve (wellFormed : tables.WellFormed) {modelId : String}
    {requested number : UInt32} (resolved : tables.resolve modelId requested = .ok number) :
    ∃ row ∈ tables.versions, tables.resolvedRow modelId requested = .ok row ∧ row.modelId = modelId ∧
      row.number = (number.toNat : Int) := by
  rcases wellFormed.resolve_cases modelId requested with ⟨refusal, refused, _⟩ | ⟨row, same, found, _⟩
  · rw [resolved] at refused
    cases refused
  · rw [resolved] at same
    cases same
    obtain ⟨member, owner, numbered⟩ := mem_of_versionRow? found
    refine ⟨row, member, ?_, owner, numbered⟩
    rw [resolvedRow, resolved]
    simp only [bind, Except.bind, found]
    rfl

private theorem number_le_latest (wellFormed : tables.WellFormed) {row : VersionRow} (member : row ∈ tables.versions)
    {known : Option ModelInfo} (read : tables.modelInfo? row.modelId = .ok known) :
    row.number ≤ (((known.map ModelInfo.latest).getD 0).toNat : Int) := by
  obtain ⟨model, present, owner, bound⟩ := wellFormed.owned row member
  have found : tables.contents[row.modelId]? = some (tables.storedModel model) := by
    rw [← owner]
    exact modelId_found wellFormed present
  rw [wellFormed.modelInfo?_eq, found] at read
  cases read
  exact Int.le_trans bound (Int.le_of_eq (wellFormed.models model present).latest_eq)

private theorem not_mem_versions_of_assigned (wellFormed : tables.WellFormed) {modelId : String}
    {known : Option ModelInfo} {requested number : UInt32} (read : tables.modelInfo? modelId = .ok known)
    (assigned : assignNumber modelId ((known.map ModelInfo.latest).getD 0) requested false = .ok number) :
    (modelId, (number.toNat : Int)) ∉ tables.versions.map fun row => (row.modelId, row.number) := by
  intro listed
  obtain ⟨row, member, same⟩ := List.mem_map.mp listed
  obtain ⟨rfl, numbered⟩ := Prod.mk.inj same
  have bound := wellFormed.number_le_latest member read
  rcases assignNumber_cases assigned with ⟨_, exist, _⟩ | ⟨_, more, rfl⟩
  · cases exist
  · rw [numbered, toNat_add_one more] at bound
    omega

end WellFormed

end Tables

/-- After every run of a store of tables that starts empty, opened anew at any time, no statement on its tables
fails, and no call of itself but for want of a number or for a time without a count. -/
theorem Store.dependable_after (events : List Event) :
    ∃ store, (Store.new .duckdb).after events = tabular store ∧ store.Dependable := by
  obtain ⟨store, same⟩ := after_tabular .empty events
  have sound : (tabular store).Sound := same ▸ sound_after (sound_new .duckdb) events
  have wellFormed : store.tables.WellFormed := sound
  refine ⟨store, same, ?_⟩
  constructor
  · exact wellFormed.modelKeys
  · exact wellFormed.versionKeys
  · intro row member
    obtain ⟨model, present, owner, bound⟩ := wellFormed.owned row member
    have valid := wellFormed.versions row member
    exact ⟨valid.size, model, present, owner, valid.number.1, bound, (wellFormed.models model present).latest.2⟩
  · exact fun row member => ⟨_, (wellFormed.models row member).info_eq store.tables⟩
  · exact fun row member => ⟨_, (wellFormed.versions row member).info_eq⟩
  · exact fun modelId requested number resolved => wellFormed.resolvedRow_of_resolve resolved
  · exact fun modelId unknown => Tables.not_mem_models_of_modelInfo? unknown
  · exact fun modelId known requested number read assigned => wellFormed.not_mem_versions_of_assigned read assigned
  · exact fun call cause => fault_iff sound

end ModelVault.Storage
