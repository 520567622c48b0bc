import ModelVault.Proofs.Storage.TableCalls
import ModelVault.Proofs.Storage.TableListing

/-!
What a call does to a store of either engine: how it answers, and which models the store holds then.
-/

namespace ModelVault.Storage

/-- Calls that change nothing. -/
def Call.isQuestion : Call → Bool
  | putModel _ _ | deleteModel _ | putVersion _ _ | deleteVersion _ _ | destroy => false
  | modelInfo _ | hasModel _ | listModels _ _ | versionInfo _ _ | versionData _ _ | listVersions _ _ _ => true

namespace Store

variable {store : Store}

/-- The time that a store gives back for a time: the tables keep whole nanoseconds, as far as 64 bits
count them. -/
def kept? : Store → Moment → Option Moment
  | nested _, time => some time
  | tabular _, time => time.nanoseconds?.map .ofNanoseconds

/-- What is true of every store that its engine has made. -/
def Sound : Store → Prop
  | nested store => ∀ (modelId : String) (model : StoredModel),
      (nested store).contents[modelId]? = some model → model.Sound modelId
  | tabular store => store.tables.WellFormed

def model (store : Store) (modelId : String) : StoredModel :=
  store.contents.getD modelId (.new ∅)

theorem model_eq {modelId : String} {model : StoredModel} (found : store.contents[modelId]? = some model) :
    store.model modelId = model := by
  rw [Store.model, Std.ExtTreeMap.getD_eq_getD_getElem?, found, Option.getD_some]

/-- The models after a version was refused. The nested engine keeps the model it was meant for, which
it has made if it was unknown. -/
def refusing (store : Store) (modelId : String) : Std.ExtTreeMap String StoredModel :=
  match store with
  | nested _ => store.contents.insert modelId (store.model modelId)
  | tabular _ => store.contents

/-- How an open store answers a call, and the models that it holds then. -/
inductive Served (store : Store) : (call : Call) → call.Reply → Std.ExtTreeMap String StoredModel → Prop where
  | asked (call : Call) (reply : call.Reply) (question : call.isQuestion = true) :
    Served store call reply store.contents
  | modelPut (modelId : String) (userData : UserData) (model : StoredModel)
    (put : model = { store.model modelId with userData := userData }) :
    Served store (.putModel modelId userData) (.ok (model.info modelId)) (store.contents.insert modelId model)
  | modelDeleted (modelId : String) (model : StoredModel) (known : store.contents[modelId]? = some model) :
    Served store (.deleteModel modelId) (.ok ()) (store.contents.erase modelId)
  | modelUnknown (modelId : String) (unknown : store.contents[modelId]? = none) :
    Served store (.deleteModel modelId) (.error (.unknownModel modelId)) store.contents
  | versionPut (modelId : String) (draft : VersionDraft) (time : Moment) (info : VersionInfo)
    (model : StoredModel) (timely : store.kept? draft.createdAt = some time)
    (stored : (store.model modelId).putVersion modelId { draft with createdAt := time } = .ok (info, model)) :
    Served store (.putVersion modelId draft) (.ok info) (store.contents.insert modelId model)
  | versionRefused (modelId : String) (draft : VersionDraft) (refusal : StoreError)
    (refused : (store.model modelId).putVersion modelId draft = .error refusal) :
    Served store (.putVersion modelId draft) (.error refusal) (store.refusing modelId)
  | versionUntimely (modelId : String) (draft : VersionDraft) (result : VersionInfo × StoredModel)
    (untimely : store.kept? draft.createdAt = none)
    (accepted : (store.model modelId).putVersion modelId draft = .ok result) :
    Served store (.putVersion modelId draft) (.error (.fault (.timeOutOfRange draft.createdAt))) store.contents
  | versionDeleted (modelId : String) (number : UInt32) (model : StoredModel) (version : StoredVersion)
    (known : store.contents[modelId]? = some model) (found : model.version modelId number = .ok version) :
    Served store (.deleteVersion modelId number) (.ok ()) (store.contents.insert modelId
      { model with versions := model.versions.erase version.info.number })
  | versionUnknown (modelId : String) (number : UInt32) (refusal : StoreError)
    (refused : ((NestedStore.live store.contents).model modelId >>= (·.version modelId number)) =
      .error refusal) :
    Served store (.deleteVersion modelId number) (.error refusal) store.contents

/-- A closed store refuses every call but the one that destroys it once more. -/
theorem perform_closed (closed : store.isOpen = false) {call : Call} (lasting : call ≠ .destroy) :
    store.perform call = (.error .destroyed, store) := by
  cases store with
  | nested store =>
    cases store with
    | live models => cases closed
    | destroyed =>
      cases call with
      | destroy => exact absurd rfl lasting
      | _ => rfl
  | tabular store =>
    obtain ⟨isOpen, tables⟩ := store
    cases closed
    cases call with
    | destroy => exact absurd rfl lasting
    | _ => rfl

theorem isOpen_of_answered {call : Call} {value : call.Value} {after : Store}
    (replied : store.perform call = (.ok value, after)) (lasting : call ≠ .destroy) : store.isOpen = true := by
  cases opened : store.isOpen with
  | true => rfl
  | false =>
    rw [perform_closed opened lasting] at replied
    cases replied

private theorem sound_insert {models : Std.ExtTreeMap String StoredModel}
    (sound : (nested (.live models)).Sound) {modelId : String} {model : StoredModel} (new : model.Sound modelId) :
    (nested (.live (models.insert modelId model))).Sound := by
  intro other found listed
  rw [contents, Std.ExtTreeMap.getElem?_insert] at listed
  split at listed
  · next same =>
    cases listed
    rwa [← Std.LawfulEqCmp.eq_of_compare same]
  · exact sound other found listed

/-- The model that a version is put into is sound, also when the call has to make it. -/
theorem Sound.model (sound : store.Sound) (modelId : String) : (store.model modelId).Sound modelId := by
  rw [Store.model, Std.ExtTreeMap.getD_eq_getD_getElem?]
  cases found : store.contents[modelId]? with
  | none => exact StoredModel.Sound.new modelId ∅
  | some model =>
    cases store with
    | nested store => exact sound modelId model found
    | tabular store => exact Tables.WellFormed.sound sound found

private theorem served_nested {models : Std.ExtTreeMap String StoredModel} (sound : (nested (.live models)).Sound)
    (call : Call) (lasting : call ≠ .destroy) :
    (nested (.live models)).Served call (NestedStore.perform call (.live models)).1
        (nested (NestedStore.perform call (.live models)).2).contents ∧
      (nested (NestedStore.perform call (.live models)).2).Sound ∧
      (nested (NestedStore.perform call (.live models)).2).isOpen = true := by
  have modelSound := Sound.model sound
  cases call with
  | destroy => exact absurd rfl lasting
  | putModel modelId userData =>
    exact ⟨.modelPut modelId userData _ rfl, sound_insert sound ((modelSound modelId).putUserData userData), rfl⟩
  | deleteModel modelId =>
    rw [NestedStore.perform, NestedStore.deleteModel]
    cases known : models[modelId]? with
    | none =>
      have unknown : ¬models.contains modelId := by simp [Std.ExtTreeMap.contains_eq_isSome_getElem?, known]
      rw [if_neg unknown]
      exact ⟨.modelUnknown modelId known, sound, rfl⟩
    | some model =>
      have present : models.contains modelId := by simp [Std.ExtTreeMap.contains_eq_isSome_getElem?, known]
      rw [if_pos present]
      refine ⟨.modelDeleted modelId model known, ?_, rfl⟩
      intro other found listed
      rw [contents, Std.ExtTreeMap.getElem?_erase] at listed
      split at listed
      · cases listed
      · exact sound other found listed
  | putVersion modelId draft =>
    rw [NestedStore.perform, NestedStore.putVersion]
    cases stored : (models.getD modelId (.new ∅)).putVersion modelId draft with
    | error refusal =>
      exact ⟨.versionRefused modelId draft refusal stored, sound_insert sound (modelSound modelId), rfl⟩
    | ok result =>
      refine ⟨.versionPut modelId draft draft.createdAt result.1 result.2 rfl stored, ?_, rfl⟩
      exact sound_insert sound ((modelSound modelId).putVersion stored)
  | deleteVersion modelId number =>
    rw [NestedStore.perform, NestedStore.deleteVersion]
    cases known : models[modelId]? with
    | none =>
      refine ⟨.versionUnknown modelId number _ ?_, sound, rfl⟩
      simp only [NestedStore.model, contents, known]
      rfl
    | some model =>
      simp only
      cases found : model.version modelId number with
      | error refusal =>
        refine ⟨.versionUnknown modelId number refusal ?_, sound, rfl⟩
        simp only [NestedStore.model, contents, known]
        exact found
      | ok version =>
        refine ⟨.versionDeleted modelId number model version known found, ?_, rfl⟩
        exact sound_insert sound ((sound modelId model known).deleteVersion version.info.number)
  | _ => exact ⟨.asked _ _ rfl, sound, rfl⟩

private theorem transact_ok {store : TableStore} (opened : store.isOpen = true) {α : Type}
    (change : Tables → Except StoreError (α × Tables)) {value : α} {changed : Tables}
    (done : change store.tables = .ok (value, changed)) :
    store.transact change = (.ok value, { store with tables := changed }) := by
  rw [TableStore.transact, if_pos opened, done]

private theorem transact_error {store : TableStore} (opened : store.isOpen = true) {α : Type}
    (change : Tables → Except StoreError (α × Tables)) {refusal : StoreError}
    (failed : change store.tables = .error refusal) : store.transact change = (.error refusal, store) := by
  rw [TableStore.transact, if_pos opened, failed]

private theorem served_as {store after : TableStore} {call : Call} {reply : call.Reply}
    (performed : store.perform call = (reply, after)) (wellFormed : after.tables.WellFormed)
    (opened : after.isOpen = true) {models : Std.ExtTreeMap String StoredModel}
    (contents : after.tables.contents = models) (served : (tabular store).Served call reply models) :
    (tabular store).Served call (store.perform call).1 (tabular (store.perform call).2).contents ∧
      (tabular (store.perform call).2).Sound ∧ (tabular (store.perform call).2).isOpen = true := by
  rw [performed]
  subst contents
  exact ⟨served, wellFormed, opened⟩

private theorem served_tabular {store : TableStore} (sound : (tabular store).Sound)
    (opened : store.isOpen = true) (call : Call) (lasting : call ≠ .destroy) :
    (tabular store).Served call (store.perform call).1 (tabular (store.perform call).2).contents ∧
      (tabular (store.perform call).2).Sound ∧ (tabular (store.perform call).2).isOpen = true := by
  have wellFormed : store.tables.WellFormed := sound
  cases call with
  | destroy => exact absurd rfl lasting
  | putModel modelId userData =>
    obtain ⟨changed, done, formed, contents⟩ := wellFormed.putModel_eq modelId userData rfl
    have performed := transact_ok opened (·.putModel modelId userData) done
    exact served_as performed formed opened contents (.modelPut modelId userData _ rfl)
  | deleteModel modelId =>
    cases known : store.tables.contents[modelId]? with
    | none =>
      have performed := transact_error opened (·.deleteModel modelId) (wellFormed.deleteModel_unknown known)
      exact served_as performed wellFormed opened rfl (.modelUnknown modelId known)
    | some model =>
      obtain ⟨changed, done, formed, contents⟩ := wellFormed.deleteModel_eq known
      have performed := transact_ok opened (·.deleteModel modelId) done
      exact served_as performed formed opened contents (.modelDeleted modelId model known)
  | putVersion modelId draft =>
    cases timely : draft.createdAt.nanoseconds? with
    | some count =>
      have kept : (tabular store).kept? draft.createdAt = some (.ofNanoseconds count) := by
        rw [kept?, timely, Option.map_some]
      cases stored : (store.tables.contents.getD modelId (.new ∅)).putVersion modelId
          { draft with createdAt := .ofNanoseconds count } with
      | error refusal =>
        -- The number is decided without the time, so the draft as it came is refused, too.
        have assigned := StoredModel.putVersion_eq_error.mp stored
        have refused : (store.tables.contents.getD modelId (.new ∅)).putVersion modelId draft = .error refusal :=
          StoredModel.putVersion_eq_error.mpr assigned
        have performed :=
          transact_error opened (·.putVersion modelId draft) (wellFormed.putVersion_refused refused)
        exact served_as performed wellFormed opened rfl (.versionRefused modelId draft refusal refused)
      | ok result =>
        obtain ⟨changed, done, formed, contents⟩ := wellFormed.putVersion_stored timely stored
        have performed := transact_ok opened (·.putVersion modelId draft) done
        exact served_as performed formed opened contents
          (.versionPut modelId draft _ result.1 result.2 kept stored)
    | none =>
      have untimely : (tabular store).kept? draft.createdAt = none := by
        rw [kept?, timely, Option.map_none]
      cases stored : (store.tables.contents.getD modelId (.new ∅)).putVersion modelId draft with
      | error refusal =>
        have performed :=
          transact_error opened (·.putVersion modelId draft) (wellFormed.putVersion_refused stored)
        exact served_as performed wellFormed opened rfl (.versionRefused modelId draft refusal stored)
      | ok result =>
        have performed :=
          transact_error opened (·.putVersion modelId draft) (wellFormed.putVersion_untimely stored timely)
        exact served_as performed wellFormed opened rfl (.versionUntimely modelId draft result untimely stored)
  | deleteVersion modelId number =>
    cases found : ((NestedStore.live store.tables.contents).model modelId >>= (·.version modelId number)) with
    | error refusal =>
      have performed :=
        transact_error opened (·.deleteVersion modelId number) (wellFormed.deleteVersion_refused found)
      exact served_as performed wellFormed opened rfl (.versionUnknown modelId number refusal found)
    | ok version =>
      rw [NestedStore.model] at found
      cases known : store.tables.contents[modelId]? with
      | none =>
        rw [known] at found
        cases found
      | some model =>
        rw [known] at found
        obtain ⟨changed, done, formed, contents⟩ := wellFormed.deleteVersion_found known found
        have performed := transact_ok opened (·.deleteVersion modelId number) done
        exact served_as performed formed opened contents (.versionDeleted modelId number model version known found)
  | _ =>
    obtain ⟨isOpen, tables⟩ := store
    cases opened
    exact ⟨.asked _ _ rfl, sound, rfl⟩

/-- Every call of an open store is served, and the store stays sound and open. -/
theorem perform_served (sound : store.Sound) (opened : store.isOpen = true) {call : Call}
    (lasting : call ≠ .destroy) :
    store.Served call (store.perform call).1 (store.perform call).2.contents ∧
      (store.perform call).2.Sound ∧ (store.perform call).2.isOpen = true := by
  cases store with
  | nested store =>
    cases store with
    | destroyed => cases opened
    | live models => exact served_nested sound call lasting
  | tabular store => exact served_tabular sound opened call lasting

namespace Served

variable {modelId : String} {draft : VersionDraft} {reply : (Call.putVersion modelId draft).Reply}
  {models : Std.ExtTreeMap String StoredModel}

theorem of_refused (served : store.Served (.putVersion modelId draft) reply models) {refusal : StoreError}
    (refused : (store.model modelId).putVersion modelId draft = .error refusal) :
    reply = .error refusal ∧ models = store.refusing modelId := by
  have assigned := StoredModel.putVersion_eq_error.mp refused
  cases served with
  | asked _ _ question => cases question
  | versionPut _ _ time info model timely stored =>
    obtain ⟨number, other, _⟩ := StoredModel.putVersion_eq_ok.mp stored
    rw [assigned] at other
    cases other
  | versionRefused _ _ other otherwise =>
    rw [refused] at otherwise
    exact ⟨by rw [Except.error.inj otherwise], rfl⟩
  | versionUntimely _ _ result untimely accepted =>
    rw [refused] at accepted
    cases accepted

/-- What putting a version is served with when the number is assigned and the time can be kept. -/
theorem of_stored (served : store.Served (.putVersion modelId draft) reply models) {time : Moment}
    (timely : store.kept? draft.createdAt = some time) {info : VersionInfo} {model : StoredModel}
    (stored : (store.model modelId).putVersion modelId { draft with createdAt := time } = .ok (info, model)) :
    reply = .ok info ∧ models = store.contents.insert modelId model := by
  obtain ⟨number, assigned, _⟩ := StoredModel.putVersion_eq_ok.mp stored
  cases served with
  | asked _ _ question => cases question
  | versionPut _ _ other _ _ timely' stored' =>
    rw [timely] at timely'
    cases timely'
    rw [stored] at stored'
    cases stored'
    exact ⟨rfl, rfl⟩
  | versionRefused _ _ refusal refused =>
    have other := StoredModel.putVersion_eq_error.mp refused
    rw [assigned] at other
    cases other
  | versionUntimely _ _ result untimely accepted =>
    rw [timely] at untimely
    cases untimely

end Served

theorem perform_putVersion_refused (sound : store.Sound) (opened : store.isOpen = true) {modelId : String}
    {draft : VersionDraft} {refusal : StoreError}
    (refused : (store.model modelId).putVersion modelId draft = .error refusal) :
    (store.perform (.putVersion modelId draft)).1 = .error refusal := by
  have lasting : Call.putVersion modelId draft ≠ .destroy := nofun
  exact ((perform_served sound opened lasting).1.of_refused refused).1

/-- What putting a version does when the number is assigned and the time can be kept. -/
theorem perform_putVersion_stored (sound : store.Sound) (opened : store.isOpen = true) {modelId : String}
    {draft : VersionDraft} {time : Moment} (timely : store.kept? draft.createdAt = some time)
    {info : VersionInfo} {model : StoredModel}
    (stored : (store.model modelId).putVersion modelId { draft with createdAt := time } = .ok (info, model)) :
    (store.perform (.putVersion modelId draft)).1 = .ok info ∧
      (store.perform (.putVersion modelId draft)).2.contents = store.contents.insert modelId model := by
  have lasting : Call.putVersion modelId draft ≠ .destroy := nofun
  exact (perform_served sound opened lasting).1.of_stored timely stored

section Questions

variable (sound : store.Sound) (opened : store.isOpen = true) (modelId : String)

include sound opened

theorem perform_modelInfo : store.perform (.modelInfo modelId) =
    (((NestedStore.live store.contents).model modelId).map (·.info modelId), store) := by
  cases store with
  | nested store =>
    cases store with
    | destroyed => cases opened
    | live models => rfl
  | tabular store =>
    obtain ⟨isOpen, tables⟩ := store
    cases opened
    have answered := Tables.WellFormed.modelInfo_eq sound modelId
    exact congrArg (·, tabular ⟨true, tables⟩) answered

theorem perform_hasModel : store.perform (.hasModel modelId) =
    (.ok (store.contents.contains modelId), store) := by
  cases store with
  | nested store =>
    cases store with
    | destroyed => cases opened
    | live models => rfl
  | tabular store =>
    obtain ⟨isOpen, tables⟩ := store
    cases opened
    have answered : (tables.modelInfo? modelId).map (·.isSome) = .ok (tables.contents.contains modelId) := by
      rw [Tables.WellFormed.modelInfo?_eq sound, Std.ExtTreeMap.contains_eq_isSome_getElem?, Except.map,
        Option.isSome_map]
    exact congrArg (·, tabular ⟨true, tables⟩) answered

theorem perform_versionInfo (number : UInt32) : store.perform (.versionInfo modelId number) =
    (((NestedStore.live store.contents).model modelId >>= (·.version modelId number)).map (·.info), store) := by
  cases store with
  | nested store =>
    cases store with
    | destroyed => cases opened
    | live models => rfl
  | tabular store =>
    obtain ⟨isOpen, tables⟩ := store
    cases opened
    have answered := Tables.WellFormed.versionInfo_eq sound modelId number
    exact congrArg (·, tabular ⟨true, tables⟩) answered

theorem perform_versionData (number : UInt32) : store.perform (.versionData modelId number) =
    (((NestedStore.live store.contents).model modelId >>= (·.version modelId number)).map (·.data), store) := by
  cases store with
  | nested store =>
    cases store with
    | destroyed => cases opened
    | live models => rfl
  | tabular store =>
    obtain ⟨isOpen, tables⟩ := store
    cases opened
    have answered := Tables.WellFormed.versionData_eq sound modelId number
    exact congrArg (·, tabular ⟨true, tables⟩) answered

theorem perform_listVersions (first : UInt32) (limit : Nat) :
    store.perform (.listVersions modelId first limit) =
      ((NestedStore.live store.contents).listVersions modelId first limit, store) := by
  cases store with
  | nested store =>
    cases store with
    | destroyed => cases opened
    | live models => rfl
  | tabular store =>
    obtain ⟨isOpen, tables⟩ := store
    cases opened
    have answered := Tables.WellFormed.listVersions_eq sound modelId first limit
    exact congrArg (·, tabular ⟨true, tables⟩) answered

end Questions

/-- The store lists the models that it holds. Behind more models than signed 64-bit integers count, the
tables would stop counting. -/
theorem perform_listModels (sound : store.Sound) (opened : store.isOpen = true) {offset : Nat} (limit : Nat)
    (counted : offset ≤ maxInt64.toNat ∨ store.contents.size ≤ maxInt64.toNat) :
    store.perform (.listModels offset limit) =
      (.ok ((store.contents.keys.drop offset).take (effectiveLimit limit)), store) := by
  cases store with
  | nested store =>
    cases store with
    | destroyed => cases opened
    | live models => rfl
  | tabular store =>
    obtain ⟨isOpen, tables⟩ := store
    cases opened
    have answered := Tables.WellFormed.listModels_eq sound limit counted
    exact congrArg (fun page => (Except.ok page, tabular ⟨true, tables⟩)) answered

end Store

end ModelVault.Storage
