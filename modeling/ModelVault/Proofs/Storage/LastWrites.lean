import ModelVault.Proofs.Storage.Sparing

/-!
What is read is what was written last. A ledger of one model, kept from outside by those who hear the answers
of a store, tells the answers to all that is asked of the model.
-/

namespace ModelVault.Storage

/-- The model that a call changes, unless it is refused. -/
def Call.target? : Call → Option String
  | putModel modelId _ | deleteModel modelId | putVersion modelId _ | deleteVersion modelId _ => some modelId
  | _ => none

/-- What answers have told of one model. -/
structure Ledger where
  /-- The user data set last, if the model exists; none were set for a model that only a version has made. -/
  userData : Option UserData
  /-- The versions stored since the model came into existence, the last one first, without those deleted. -/
  writes : List StoredVersion

namespace Ledger

def empty : Ledger := ⟨none, []⟩

def existing (ledger : Ledger) : Ledger :=
  { ledger with userData := some (ledger.userData.getD ∅) }

/-- A number means the versions stored under it, and zero those of the highest number. -/
def Means (ledger : Ledger) (number : UInt32) (write : StoredVersion) : Prop :=
  if number = 0 then ∀ other ∈ ledger.writes, other.info.number ≤ write.info.number
  else write.info.number = number

instance (ledger : Ledger) (number : UInt32) (write : StoredVersion) : Decidable (ledger.Means number write) :=
  inferInstanceAs (Decidable (if number = 0 then _ else _))

def note (engine : Engine) (ledger : Ledger) : (call : Call) → call.Reply → Ledger
  | .putModel _ userData, .ok _ => { ledger with userData := some userData }
  | .deleteModel _, .ok _ => empty
  | .putVersion _ draft, .ok (info : VersionInfo) =>
    { ledger.existing with writes := ⟨info, draft.data⟩ :: ledger.writes }
  | .putVersion _ _, .error .destroyed => ledger
  -- The engine in memory makes the model before it looks at the number.
  | .putVersion _ _, .error _ =>
    match engine with
    | .memory => ledger.existing
    | .duckdb => ledger
  | .deleteVersion _ number, .ok _ => { ledger with writes := ledger.writes.filter (¬ledger.Means number ·) }
  | _, _ => ledger

def version? (ledger : Ledger) (number : UInt32) : Option StoredVersion :=
  ledger.writes.find? (·.info.number = number)

/-- What a request for a version of the model is answered from. -/
def read (ledger : Ledger) (modelId : String) (number : UInt32) : Except StoreError StoredVersion :=
  if ledger.userData = none then .error (.unknownModel modelId)
  else if ledger.writes = [] then .error (.unknownVersion modelId 0)
  else
    match ledger.version? number with
    | some version => .ok version
    | none => .error (.unknownVersion modelId number)

/-- The ledger is right about a model. -/
structure Describes (ledger : Ledger) (model : Option StoredModel) : Prop where
  userData : ledger.userData = model.map (·.userData)
  version? : ∀ number, ledger.version? number = model.bind (·.versions[number]?)

variable {ledger : Ledger} {stored : Option StoredModel} {model : StoredModel}

theorem version?_of_mem {write : StoredVersion} (member : write ∈ ledger.writes) :
    ∃ version, ledger.version? write.info.number = some version :=
  Option.isSome_iff_exists.mp (List.find?_isSome.mpr ⟨write, member, by simp⟩)

theorem describes_empty : empty.Describes none :=
  ⟨rfl, fun _ => rfl⟩

theorem version?_existing (number : UInt32) : ledger.existing.version? number = ledger.version? number := rfl

private theorem Describes.existing (describes : ledger.Describes stored) :
    ledger.existing.Describes (some (stored.getD (.new ∅))) := by
  constructor
  · rw [Ledger.existing, describes.userData]
    cases stored with
    | none => rfl
    | some model => rfl
  · intro number
    rw [version?_existing, describes.version?]
    cases stored with
    | none => simp [StoredModel.new]
    | some model => rfl

private theorem Describes.write (describes : ledger.Describes (some model)) {version : StoredVersion}
    {number latest : UInt32} (numbered : version.info.number = number) :
    Describes { ledger with writes := version :: ledger.writes }
      (some { model with versions := model.versions.insert number version, latest := latest }) := by
  constructor
  · exact describes.userData
  · intro other
    have before := describes.version? other
    rw [Option.bind_some] at before ⊢
    rw [Std.ExtTreeMap.getElem?_insert, Ledger.version?, List.find?_cons, numbered]
    by_cases same : number = other
    · simp [same]
    · simpa [same, Ledger.version?] using before

/-- The versions that a number means are those of the number whose version the model finds for it. -/
private theorem Describes.means_iff (describes : ledger.Describes (some model)) {modelId : String}
    (sound : model.Sound modelId) {number : UInt32} {version write : StoredVersion}
    (found : model.version modelId number = .ok version) (member : write ∈ ledger.writes) :
    ledger.Means number write ↔ write.info.number = version.info.number := by
  obtain ⟨key, listed, named, greatest⟩ := StoredModel.version_cases found
  rw [(sound.described key version listed).2.1, Means]
  by_cases zero : number = 0
  · have highest : ∀ other ∈ ledger.writes, other.info.number ≤ key := by
      intro other present
      obtain ⟨last, written⟩ := version?_of_mem present
      rw [describes.version?, Option.bind_some] at written
      exact greatest zero _ (Std.ExtTreeMap.mem_iff_isSome_getElem?.mpr (by simp [written]))
    rw [if_pos zero]
    constructor
    · intro bound
      have written : ledger.version? key = some version := by rw [describes.version?, Option.bind_some, listed]
      have numbered : version.info.number = key := by simpa using List.find?_some written
      have above := bound version (List.mem_of_find?_eq_some written)
      rw [numbered] at above
      exact UInt32.le_antisymm (highest write member) above
    · intro same
      rwa [same]
  · rw [if_neg zero, named zero]

private theorem Describes.deleteVersion (describes : ledger.Describes (some model)) {modelId : String}
    (sound : model.Sound modelId) {number : UInt32} {version : StoredVersion}
    (found : model.version modelId number = .ok version) :
    Describes { ledger with writes := ledger.writes.filter (¬ledger.Means number ·) }
      (some { model with versions := model.versions.erase version.info.number }) := by
  have remaining : ledger.writes.filter (¬ledger.Means number ·) =
      ledger.writes.filter (·.info.number ≠ version.info.number) := by
    apply List.filter_congr
    intro write member
    simp [describes.means_iff sound found member]
  constructor
  · exact describes.userData
  · intro other
    have before := describes.version? other
    rw [Option.bind_some] at before ⊢
    rw [Std.ExtTreeMap.getElem?_erase, Ledger.version?, remaining, List.find?_filter]
    by_cases same : version.info.number = other
    · simp [same]
    · rw [if_neg (by simpa using same), ← before, Ledger.version?]
      congr 1
      funext write
      by_cases here : write.info.number = other
      · simp [here, Ne.symm same]
      · simp [here]

/-- A request finds the version written last, or is refused in the words of the store. -/
theorem Describes.read_eq {models : Std.ExtTreeMap String StoredModel} {modelId : String}
    (describes : ledger.Describes models[modelId]?) {number : UInt32} (positive : number ≠ 0) :
    ((NestedStore.live models).model modelId >>= (·.version modelId number)) = ledger.read modelId number := by
  rw [read, describes.userData, NestedStore.model]
  cases found : models[modelId]? with
  | none => rfl
  | some model =>
    rw [found] at describes
    rw [if_neg (by simp)]
    change model.version modelId number = _
    cases writes : ledger.writes with
    | nil =>
      have none : model.versions = ∅ := by
        apply Std.ExtTreeMap.ext_getElem?
        intro other
        have missing := describes.version? other
        rw [Ledger.version?, writes, Option.bind_some] at missing
        simpa using missing.symm
      rw [if_pos rfl, StoredModel.version_of_empty modelId number none]
    | cons write rest =>
      have member : write ∈ ledger.writes := by simp [writes]
      obtain ⟨other, written⟩ := version?_of_mem member
      rw [describes.version?, Option.bind_some] at written
      rw [if_neg (by simp), describes.version?, Option.bind_some]
      cases listed : model.versions[number]? with
      | none => exact StoredModel.version_missing modelId positive written listed
      | some version => exact StoredModel.version_eq_ok modelId positive listed

end Ledger

namespace Store

variable {store : Store} {modelId : String} {ledger : Ledger}

def engine : Store → Engine
  | nested _ => .memory
  | tabular _ => .duckdb

def noted (store : Store) (modelId : String) (ledger : Ledger) : Event → Ledger
  | .call call =>
    if call.target? = some modelId then ledger.note store.engine call (store.perform call).1 else ledger
  | .reopened => ledger

/-- The ledger of a model after a run. -/
def ledgerAfter (modelId : String) : Store → Ledger → List Event → Ledger
  | _, ledger, [] => ledger
  | store, ledger, event :: rest => ledgerAfter modelId (event.apply store) (store.noted modelId ledger event) rest

private theorem model_eq_getD (store : Store) (modelId : String) :
    store.model modelId = store.contents[modelId]?.getD (.new ∅) := by
  rw [Store.model, Std.ExtTreeMap.getD_eq_getD_getElem?]

private theorem putVersion_not_destroyed {model : StoredModel} {draft : VersionDraft} :
    model.putVersion modelId draft ≠ .error .destroyed := by
  rw [Ne, StoredModel.putVersion_eq_error, assignNumber]
  split
  · simp
  · split
    · simp
    · split <;> simp

private theorem describes_served (sound : store.Sound) {call : Call} {reply : call.Reply}
    {models : Std.ExtTreeMap String StoredModel} (served : store.Served call reply models)
    (describes : ledger.Describes store.contents[modelId]?) :
    (if call.target? = some modelId then ledger.note store.engine call reply else ledger).Describes
      models[modelId]? := by
  -- The model exists from now on, in the state that a version is put into.
  have existing := describes.existing
  rw [← model_eq_getD] at existing
  have elsewhere : ∀ {target : String} {other : StoredModel}, target ≠ modelId →
      ledger.Describes (store.contents.insert target other)[modelId]? := by
    intro target other different
    rwa [Std.ExtTreeMap.getElem?_insert, if_neg (by simpa using different)]
  cases served with
  | asked call reply question =>
    have untouched : call.target? = none := by
      cases call with
      | putModel | deleteModel | putVersion | deleteVersion => cases question
      | _ => rfl
    rwa [untouched, if_neg (by simp)]
  | modelPut target userData model put =>
    by_cases here : target = modelId
    · subst here put
      rw [Call.target?, if_pos rfl, Std.ExtTreeMap.getElem?_insert_self]
      exact ⟨rfl, existing.version?⟩
    · rw [Call.target?, if_neg (by simpa using here)]
      exact elsewhere here
  | modelDeleted target model known =>
    by_cases here : target = modelId
    · subst here
      rw [Call.target?, if_pos rfl, Std.ExtTreeMap.getElem?_erase_self]
      exact Ledger.describes_empty
    · rw [Call.target?, if_neg (by simpa using here), Std.ExtTreeMap.getElem?_erase, if_neg (by simpa using here)]
      exact describes
  | modelUnknown target unknown =>
    split <;> exact describes
  | versionPut target draft time info model timely stored =>
    by_cases here : target = modelId
    · subst here
      rw [Call.target?, if_pos rfl, Std.ExtTreeMap.getElem?_insert_self]
      obtain ⟨number, assigned, rfl, rfl⟩ := StoredModel.putVersion_eq_ok.mp stored
      exact existing.write rfl
    · rw [Call.target?, if_neg (by simpa using here)]
      exact elsewhere here
  | versionRefused target draft refusal refused =>
    have numbered : refusal ≠ .destroyed := by
      rintro rfl
      exact putVersion_not_destroyed refused
    by_cases here : target = modelId
    · subst here
      rw [Call.target?, if_pos rfl]
      cases store with
      | nested store =>
        rw [refusing, Std.ExtTreeMap.getElem?_insert_self]
        cases refusal with
        | destroyed => exact absurd rfl numbered
        | _ => exact existing
      | tabular store =>
        cases refusal with
        | destroyed => exact absurd rfl numbered
        | _ => exact describes
    · rw [Call.target?, if_neg (by simpa using here)]
      cases store with
      | nested store => exact elsewhere here
      | tabular store => exact describes
  | versionUntimely target draft result untimely accepted =>
    cases store with
    | nested store => cases untimely
    | tabular store => split <;> exact describes
  | versionDeleted target number model version known found =>
    by_cases here : target = modelId
    · subst here
      have modelSound := sound.model target
      rw [model_eq known] at modelSound
      rw [known] at describes
      rw [Call.target?, if_pos rfl, Std.ExtTreeMap.getElem?_insert_self]
      exact describes.deleteVersion modelSound found
    · rw [Call.target?, if_neg (by simpa using here)]
      exact elsewhere here
  | versionUnknown target number refusal refused =>
    split <;> exact describes

private theorem apply_destroyed (event : Event) : event.apply (nested .destroyed) = nested .destroyed := by
  cases event with
  | reopened => rfl
  | call call => cases call <;> rfl

private theorem after_destroyed (events : List Event) :
    (nested .destroyed).after events = nested .destroyed := by
  induction events with
  | nil => rfl
  | cons event rest ih =>
    rw [after, List.foldl_cons, apply_destroyed]
    exact ih

private theorem describes_apply (sound : store.Sound) (event : Event)
    (lasting : event.apply store ≠ nested .destroyed) (describes : ledger.Describes store.contents[modelId]?) :
    (store.noted modelId ledger event).Describes (event.apply store).contents[modelId]? := by
  rcases apply_cases sound event with ⟨same, refused⟩ | ⟨rfl, _⟩ | ⟨call, rfl, _, served⟩
  · have nothing : store.noted modelId ledger event = ledger := by
      cases event with
      | reopened => rfl
      | call call =>
        rcases refused call rfl with rfl | refused
        · rfl
        · rw [noted, refused]
          cases call <;> exact ite_self _
    rwa [nothing, same]
  · cases store with
    | nested store => exact absurd rfl lasting
    | tabular store => exact describes
  · exact describes_served sound served describes

/-- What is answered along a run tells of the model what has become of it. -/
private theorem describes_after (sound : store.Sound) (events : List Event)
    (lasting : store.after events ≠ nested .destroyed) (describes : ledger.Describes store.contents[modelId]?) :
    (store.ledgerAfter modelId ledger events).Describes (store.after events).contents[modelId]? := by
  induction events generalizing store ledger with
  | nil => exact describes
  | cons event rest ih =>
    have lastingNow : event.apply store ≠ nested .destroyed := by
      intro gone
      apply lasting
      rw [after, List.foldl_cons, gone]
      exact after_destroyed rest
    exact ih (sound_apply sound event) lasting (describes_apply sound event lastingNow describes)

theorem ledgerAfter_append (first second : List Event) : store.ledgerAfter modelId ledger (first ++ second) =
    (store.after first).ledgerAfter modelId (store.ledgerAfter modelId ledger first) second := by
  induction first generalizing store ledger with
  | nil => rfl
  | cons event rest ih => exact ih

private theorem written_of_mem_noted {write : StoredVersion} {event : Event}
    (member : write ∈ (store.noted modelId ledger event).writes) :
    write ∈ ledger.writes ∨ ∃ draft, event = .call (.putVersion modelId draft) ∧
      (store.perform (.putVersion modelId draft)).1 = .ok write.info ∧ write.data = draft.data := by
  cases event with
  | reopened => exact .inl member
  | call call =>
    rw [noted] at member
    split at member
    · next concerned =>
      revert member
      cases replied : (store.perform call).1 with
      | ok value =>
        intro member
        cases call with
        | deleteModel => cases member
        | putVersion target draft =>
          rcases List.mem_cons.mp member with rfl | before
          · cases concerned
            exact .inr ⟨draft, rfl, replied, rfl⟩
          · exact .inl before
        | deleteVersion => exact .inl (List.mem_filter.mp member).1
        | _ => exact .inl member
      | error refusal =>
        intro member
        cases call with
        | putVersion target draft =>
          revert member
          cases refusal with
          | destroyed => exact .inl
          | _ => cases store <;> exact .inl
        | _ => exact .inl member
    · exact .inl member

private theorem written_of_mem_ledgerAfter {write : StoredVersion} {events : List Event}
    (member : write ∈ (store.ledgerAfter modelId ledger events).writes) :
    write ∈ ledger.writes ∨ ∃ before draft rest, events = before ++ .call (.putVersion modelId draft) :: rest ∧
      ((store.after before).perform (.putVersion modelId draft)).1 = .ok write.info ∧ write.data = draft.data := by
  induction events generalizing store ledger with
  | nil => exact .inl member
  | cons event rest ih =>
    rcases ih member with stood | ⟨before, draft, remaining, rfl, replied, same⟩
    · rcases written_of_mem_noted stood with stood | ⟨draft, rfl, replied, same⟩
      · exact .inl stood
      · exact .inr ⟨[], draft, rest, rfl, replied, same⟩
    · exact .inr ⟨event :: before, draft, remaining, rfl, replied, same⟩

/-- What a store answers of a version of a model, and of the user data of the model, is what a ledger says. -/
structure ReadsLast (store : Store) (modelId : String) (number : UInt32) (ledger : Ledger) : Prop where
  info : (store.perform (.versionInfo modelId number)).1 = (ledger.read modelId number).map (·.info)
  data : (store.perform (.versionData modelId number)).1 = (ledger.read modelId number).map (·.data)
  userData : ((store.perform (.modelInfo modelId)).1).map ModelInfo.userData =
    match ledger.userData with
    | some userData => .ok userData
    | none => .error (.unknownModel modelId)
  /-- A version is read under the number that it got in the model that it was meant for. -/
  described : ∀ version, ledger.version? number = some version →
    version.info.modelId = modelId ∧ version.info.number = number ∧ version.info.size = version.data.length
  /-- It is read in the same way after everything that neither replaces nor deletes it. -/
  kept : ∀ version, ledger.version? number = some version → ∀ later, store.SparesAll modelId number later →
    ((store.after later).perform (.versionInfo modelId number)).1 = .ok version.info ∧
      ((store.after later).perform (.versionData modelId number)).1 = .ok version.data

private theorem readsLast (sound : store.Sound) (opened : store.isOpen = true)
    (describes : ledger.Describes store.contents[modelId]?) {number : UInt32} (positive : number ≠ 0) :
    store.ReadsLast modelId number ledger := by
  have holds : ∀ version, ledger.version? number = some version → store.Holds modelId number version := by
    intro version written
    rw [describes.version?] at written
    exact Option.bind_eq_some_iff.mp written
  constructor
  · rw [perform_versionInfo sound opened, describes.read_eq positive]
  · rw [perform_versionData sound opened, describes.read_eq positive]
  · rw [perform_modelInfo sound opened, describes.userData, NestedStore.model]
    cases store.contents[modelId]? with
    | none => rfl
    | some model => rfl
  · intro version written
    obtain ⟨model, found, listed⟩ := holds version written
    have modelSound := sound.model modelId
    rw [model_eq found] at modelSound
    exact modelSound.described number version listed
  · intro version written later spared
    obtain ⟨stillOpen, stillHolds⟩ := holds_after sound opened (holds version written) spared
    obtain ⟨info, data⟩ := perform_held (sound_after sound later) stillOpen stillHolds
    exact ⟨congrArg Prod.fst info, congrArg Prod.fst data⟩

/-- What the ledger holds of a model that was deleted was stored after that. -/
private theorem written_after_deletion {earlier later : List Event}
    (deleted : ((store.after earlier).perform (.deleteModel modelId)).1 = .ok ()) {write : StoredVersion}
    (member : write ∈ (store.ledgerAfter modelId ledger (earlier ++ .call (.deleteModel modelId) :: later)).writes) :
    ∃ before draft rest, later = before ++ .call (.putVersion modelId draft) :: rest ∧
      ((store.after (earlier ++ .call (.deleteModel modelId) :: before)).perform (.putVersion modelId draft)).1 =
        .ok write.info ∧ write.data = draft.data := by
  have forgotten : (store.after earlier).noted modelId (store.ledgerAfter modelId ledger earlier)
      (.call (.deleteModel modelId)) = .empty := by
    rw [noted, Call.target?, if_pos rfl, deleted]
    rfl
  rw [ledgerAfter_append, ledgerAfter, forgotten] at member
  rcases written_of_mem_ledgerAfter member with stood | ⟨before, draft, rest, rfl, replied, same⟩
  · cases stood
  · refine ⟨before, draft, rest, rfl, ?_, same⟩
    rw [after, List.foldl_append]
    exact replied

/-- After every run of a store of either engine that starts empty, what is read of a version is what the call
that stored it last was answered and given, and the user data of a model are those set last. What is read of
a model that was deleted in between was stored after that. -/
theorem reads_last_write (engine : Engine) (events : List Event) (modelId : String) (number : UInt32)
    (positive : number ≠ 0) (opened : ((Store.new engine).after events).isOpen = true) :
    let ledger := (Store.new engine).ledgerAfter modelId .empty events
    ((Store.new engine).after events).ReadsLast modelId number ledger ∧
      ∀ earlier later, events = earlier ++ .call (.deleteModel modelId) :: later →
        (((Store.new engine).after earlier).perform (.deleteModel modelId)).1 = .ok () →
        ∀ version, ledger.version? number = some version →
          ∃ before draft rest, later = before ++ .call (.putVersion modelId draft) :: rest ∧
            (((Store.new engine).after (earlier ++ .call (.deleteModel modelId) :: before)).perform
              (.putVersion modelId draft)).1 = .ok version.info ∧ version.data = draft.data := by
  intro ledger
  have fresh : Ledger.empty.Describes (Store.new engine).contents[modelId]? := by
    cases engine with
    | memory => exact Ledger.describes_empty
    | duckdb => exact Ledger.describes_empty
  have lasting : (Store.new engine).after events ≠ nested .destroyed := by
    intro gone
    rw [gone] at opened
    cases opened
  have describes := describes_after (sound_new engine) events lasting fresh
  refine ⟨readsLast (sound_after (sound_new engine) events) opened describes positive, ?_⟩
  rintro earlier later rfl deleted version written
  exact written_after_deletion deleted (List.mem_of_find?_eq_some written)

/-- A run in which a version is replaced, its model deleted and made again, and other versions come and go. -/
theorem reads_last_write_made_again :
    let draft (number : UInt32) (octet : UInt8) : VersionDraft :=
      ⟨number, ⟨0, 0⟩, false, "", [octet], ∅, (by decide : (1 : Int) ≤ maxInt64)⟩
    let run : List Event := [.call (.putVersion "m" (draft 0 1)), .call (.putVersion "m" (draft 1 2)),
      .call (.deleteModel "m"), .call (.putVersion "m" (draft 0 3)), .call (.putVersion "n" (draft 0 4)),
      .call (.putVersion "m" (draft 1 5)), .call (.putVersion "m" (draft 0 6)), .call (.deleteVersion "m" 0),
      .reopened]
    let store := (Store.new .duckdb).after run
    store.isOpen = true ∧ (store.perform (.versionData "m" 1)).1 = .ok [5] ∧
      (store.perform (.versionInfo "m" 2)).1 = .error (.unknownVersion "m" 2) := by
  intro draft run store
  have opened : store.isOpen = true := by decide +kernel
  let ledger := (Store.new .duckdb).ledgerAfter "m" .empty run
  have written : ledger.version? 1 = some ⟨(draft 1 5).info "m" 1, [5]⟩ := by decide +kernel
  have deleted : ledger.version? 2 = none := by decide +kernel
  have known : ledger.userData ≠ none ∧ ledger.writes ≠ [] := by decide +kernel
  have first := (reads_last_write .duckdb run "m" 1 (by decide) opened).1
  have second := (reads_last_write .duckdb run "m" 2 (by decide) opened).1
  refine ⟨opened, first.data.trans ?_, second.info.trans ?_⟩
  · rw [Ledger.read, if_neg known.1, if_neg known.2, written]
    rfl
  · rw [Ledger.read, if_neg known.1, if_neg known.2, deleted]
    rfl

end Store

end ModelVault.Storage
