import ModelVault.Proofs.Storage.Runs

/-!
Events that spare a version: after any number of them the store still holds it as it was.
-/

namespace ModelVault.Storage.Store

variable {store : Store} {modelId : String} {number : UInt32} {version : StoredVersion}

/-- The store holds a version under a number of a model. -/
def Holds (store : Store) (modelId : String) (number : UInt32) (version : StoredVersion) : Prop :=
  ∃ model, store.contents[modelId]? = some model ∧ model.versions[number]? = some version

/-- The event neither replaces nor deletes the version of this number, be it the version alone, as such
or as the highest one, or with its model or with everything. -/
def Spares (store : Store) (modelId : String) (number : UInt32) : Event → Prop
  | .call (.deleteModel target) => target ≠ modelId
  | .call .destroy => False
  | .call (.putVersion target draft) => target = modelId → draft.number ≠ number
  | .call (.deleteVersion target wanted) => target = modelId →
    wanted ≠ number ∧ (wanted = 0 → ∃ higher ∈ (store.model modelId).versions, number < higher)
  | _ => True

def SparesAll (modelId : String) (number : UInt32) : Store → List Event → Prop
  | _, [] => True
  | store, event :: rest => store.Spares modelId number event ∧ SparesAll modelId number (event.apply store) rest

theorem sparesAll_append {first second : List Event} : store.SparesAll modelId number (first ++ second) ↔
    store.SparesAll modelId number first ∧ (store.after first).SparesAll modelId number second := by
  induction first generalizing store with
  | nil => simp [SparesAll, after]
  | cons event rest ih =>
    rw [List.cons_append, SparesAll, SparesAll, ih, and_assoc]
    rfl

private theorem holds_served (sound : store.Sound) {call : Call} {reply : call.Reply}
    {models : Std.ExtTreeMap String StoredModel} (served : store.Served call reply models)
    (spared : store.Spares modelId number (.call call)) {model : StoredModel}
    (found : store.contents[modelId]? = some model) (stored : model.versions[number]? = some version) :
    ∃ next : StoredModel, models[modelId]? = some next ∧ next.versions[number]? = some version := by
  have same := model_eq found
  have elsewhere : ∀ {target : String} {other : StoredModel}, target ≠ modelId →
      ∃ next : StoredModel, (store.contents.insert target other)[modelId]? = some next ∧
        next.versions[number]? = some version := by
    intro target other different
    exact ⟨model, by rw [Std.ExtTreeMap.getElem?_insert, if_neg (by simpa using different), found], stored⟩
  cases served with
  | asked call reply question => exact ⟨model, found, stored⟩
  | modelPut target userData next put =>
    by_cases here : target = modelId
    · subst here
      exact ⟨next, Std.ExtTreeMap.getElem?_insert_self, by rw [put, same]; exact stored⟩
    · exact elsewhere here
  | modelDeleted target other known =>
    have different : target ≠ modelId := spared
    refine ⟨model, ?_, stored⟩
    rw [Std.ExtTreeMap.getElem?_erase, if_neg (by simpa using different), found]
  | modelUnknown target unknown => exact ⟨model, found, stored⟩
  | versionPut target draft time info next timely put =>
    by_cases here : target = modelId
    · subst here
      obtain ⟨assigned, handedOut, rfl, rfl⟩ := StoredModel.putVersion_eq_ok.mp put
      refine ⟨_, Std.ExtTreeMap.getElem?_insert_self, ?_⟩
      -- A number is one that was asked for, or one that no version has yet.
      have different : assigned ≠ number := by
        rcases (sound.model target).assigned_cases handedOut with ⟨named, _⟩ | ⟨new, _⟩
        · rw [named]
          exact spared rfl
        · rintro rfl
          rw [same] at new
          simp [Std.ExtTreeMap.mem_iff_isSome_getElem?, stored] at new
      rw [same, Std.ExtTreeMap.getElem?_insert, if_neg (by simpa using different), stored]
    · exact elsewhere here
  | versionRefused target draft refusal refused =>
    cases store with
    | tabular store => exact ⟨model, found, stored⟩
    | nested store =>
      by_cases here : target = modelId
      · subst here
        exact ⟨_, Std.ExtTreeMap.getElem?_insert_self, by rw [same]; exact stored⟩
      · exact elsewhere here
  | versionUntimely target draft result untimely accepted => exact ⟨model, found, stored⟩
  | versionDeleted target wanted other deleted known asked =>
    by_cases here : target = modelId
    · subst here
      rw [found] at known
      cases known
      obtain ⟨notNamed, notHighest⟩ := spared rfl
      obtain ⟨key, listed, named, greatest⟩ := StoredModel.version_cases asked
      have modelSound := sound.model target
      rw [same] at modelSound notHighest
      refine ⟨_, Std.ExtTreeMap.getElem?_insert_self, ?_⟩
      have different : deleted.info.number ≠ number := by
        rw [(modelSound.described key deleted listed).2.1]
        by_cases zero : wanted = 0
        · obtain ⟨higher, present, above⟩ := notHighest zero
          rintro rfl
          exact UInt32.lt_irrefl _ (UInt32.lt_of_lt_of_le above (greatest zero higher present))
        · rw [named zero]
          exact notNamed
      rw [Std.ExtTreeMap.getElem?_erase, if_neg (by simpa using different), stored]
    · exact elsewhere here
  | versionUnknown target wanted refusal refused => exact ⟨model, found, stored⟩

theorem holds_apply (sound : store.Sound) (opened : store.isOpen = true)
    (holds : store.Holds modelId number version) {event : Event} (spared : store.Spares modelId number event) :
    (event.apply store).isOpen = true ∧ (event.apply store).Holds modelId number version := by
  obtain ⟨model, found, stored⟩ := holds
  cases event with
  | reopened =>
    cases store with
    | nested store => exact ⟨opened, model, found, stored⟩
    | tabular store => exact ⟨rfl, model, found, stored⟩
  | call call =>
    have lasting : call ≠ .destroy := by
      rintro rfl
      exact spared
    obtain ⟨served, _, stillOpen⟩ := perform_served sound opened lasting
    exact ⟨stillOpen, holds_served sound served spared found stored⟩

/-- A run that spares a version leaves it, and the store open. -/
theorem holds_after (sound : store.Sound) (opened : store.isOpen = true)
    (holds : store.Holds modelId number version) {events : List Event}
    (spared : store.SparesAll modelId number events) :
    (store.after events).isOpen = true ∧ (store.after events).Holds modelId number version := by
  induction events generalizing store with
  | nil => exact ⟨opened, holds⟩
  | cons event rest ih =>
    obtain ⟨spared, sparedRest⟩ := spared
    obtain ⟨stillOpen, stillHolds⟩ := holds_apply sound opened holds spared
    exact ih (sound_apply sound event) stillOpen stillHolds sparedRest

/-- The number can be asked for: it is that of a version, or the next one, by name or by leaving it open. -/
def Accepts (store : Store) (modelId : String) (requested : UInt32) : Prop :=
  (requested ≠ 0 ∧ requested ∈ (store.model modelId).versions) ∨
    ((store.model modelId).latest ≠ maxVersionNumber ∧
      (requested = 0 ∨ requested = (store.model modelId).latest + 1))

/-- The number that a version gets which asks for one that can be asked for. -/
def numberFor (store : Store) (modelId : String) (requested : UInt32) : UInt32 :=
  if requested ≠ 0 ∧ requested ∈ (store.model modelId).versions then requested
  else (store.model modelId).latest + 1

private theorem assignNumber_accepted {requested : UInt32} (accepted : store.Accepts modelId requested) :
    assignNumber modelId (store.model modelId).latest requested
      ((store.model modelId).versions.contains requested) = .ok (store.numberFor modelId requested) := by
  rw [assignNumber, numberFor]
  simp only [← Std.ExtTreeMap.mem_iff_contains]
  split
  · rfl
  · next new =>
    rcases accepted with replaced | ⟨more, next⟩
    · exact absurd replaced new
    · rw [if_neg more, if_pos next]

/-- A version whose number can be asked for is stored, with the time that the store keeps. -/
theorem perform_putVersion_accepted (sound : store.Sound) (opened : store.isOpen = true) (draft : VersionDraft)
    {time : Moment} (accepted : store.Accepts modelId draft.number)
    (timely : store.kept? draft.createdAt = some time) :
    let info := { draft with createdAt := time }.info modelId (store.numberFor modelId draft.number)
    let stored := store.perform (.putVersion modelId draft)
    stored.1 = .ok info ∧ stored.2.Sound ∧ stored.2.isOpen = true ∧
      stored.2.Holds modelId info.number ⟨info, draft.data⟩ := by
  intro info stored
  have lasting : Call.putVersion modelId draft ≠ .destroy := nofun
  obtain ⟨_, stillSound, stillOpen⟩ := perform_served sound opened lasting
  have put : ∃ next : StoredModel,
      (store.model modelId).putVersion modelId { draft with createdAt := time } = .ok (info, next) ∧
        next.versions[info.number]? = some ⟨info, draft.data⟩ :=
    ⟨_, StoredModel.putVersion_eq_ok.mpr ⟨_, assignNumber_accepted accepted, rfl, rfl⟩,
      Std.ExtTreeMap.getElem?_insert_self⟩
  obtain ⟨next, result, listed⟩ := put
  obtain ⟨replied, contents⟩ := perform_putVersion_stored sound opened timely result
  exact ⟨replied, stillSound, stillOpen, next, by rw [contents, Std.ExtTreeMap.getElem?_insert_self], listed⟩

theorem perform_held (sound : store.Sound) (opened : store.isOpen = true)
    (holds : store.Holds modelId number version) :
    store.perform (.versionInfo modelId number) = (.ok version.info, store) ∧
      store.perform (.versionData modelId number) = (.ok version.data, store) := by
  obtain ⟨model, found, stored⟩ := holds
  have modelSound := sound.model modelId
  rw [model_eq found] at modelSound
  have bound := (modelSound.handedOut number (Std.ExtTreeMap.mem_iff_isSome_getElem?.mpr (by simp [stored]))).1
  have positive : number ≠ 0 := fun zero => by simp [zero] at bound
  have asked : ((NestedStore.live store.contents).model modelId >>= (·.version modelId number)) = .ok version := by
    rw [NestedStore.model, found]
    exact StoredModel.version_eq_ok modelId positive stored
  constructor
  · rw [perform_versionInfo sound opened, asked]
    rfl
  · rw [perform_versionData sound opened, asked]
    rfl

end ModelVault.Storage.Store
