import ModelVault.Proofs.Storage.Runs

/-!
The numbers of versions. Along every run a model hands out 1, 2, 3 and so on, whatever is replaced,
refused or deleted in between, and none of them a second time.
-/

namespace ModelVault.Storage.Store

variable {store : Store} {modelId : String}

/-- The number that an event hands out for a model: that of a version which takes the place of no other. -/
def handedOut? (store : Store) (modelId : String) : Event → Option UInt32
  | .call (.putVersion target draft) =>
    match (store.perform (.putVersion target draft)).1 with
    | .ok (info : VersionInfo) =>
      if target = modelId ∧ info.number ∉ (store.model modelId).versions then some info.number else none
    | .error _ => none
  | _ => none

/-- The numbers that a run hands out for a model, since it came into existence for the last time and
after those that it had handed out before the run. -/
def handedOut (modelId : String) : Store → List UInt32 → List Event → List UInt32
  | _, numbers, [] => numbers
  | store, numbers, event :: rest =>
    let next := event.apply store
    let numbers := if modelId ∈ next.contents then numbers ++ (store.handedOut? modelId event).toList else []
    handedOut modelId next numbers rest

theorem model_of_unknown (unknown : modelId ∉ store.contents) : store.model modelId = .new ∅ := by
  rw [Store.model, Std.ExtTreeMap.getD_eq_getD_getElem?, Std.ExtTreeMap.getElem?_eq_none unknown,
    Option.getD_none]

private theorem handedOut?_of_refused {event : Event}
    (refused : ∀ call, event = .call call → call = .destroy ∨ (store.perform call).1 = .error .destroyed) :
    store.handedOut? modelId event = none := by
  cases event with
  | reopened => rfl
  | call call =>
    cases call with
    | putVersion target draft =>
      rcases refused _ rfl with same | same
      · cases same
      · rw [handedOut?, same]
    | _ => rfl

private theorem latest_served (sound : store.Sound) {call : Call} {reply : call.Reply}
    {models : Std.ExtTreeMap String StoredModel} (served : store.Served call reply models)
    (replied : (store.perform call).1 = reply) (known : modelId ∈ models) :
    match store.handedOut? modelId (.call call) with
    | some number => number.toNat = (store.model modelId).latest.toNat + 1 ∧
      (models.getD modelId (.new ∅)).latest = number
    | none => (models.getD modelId (.new ∅)).latest = (store.model modelId).latest := by
  cases served with
  | asked call reply question =>
    cases call with
    | putVersion target draft => cases question
    | _ => rfl
  | modelPut target userData model put =>
    simp only [handedOut?, Std.ExtTreeMap.getD_insert]
    split
    · next same => rw [put, Std.LawfulEqCmp.eq_of_compare same]
    · rfl
  | modelDeleted target model found =>
    simp only [handedOut?, Std.ExtTreeMap.getD_erase]
    split
    · next same => simp [Std.LawfulEqCmp.eq_of_compare same] at known
    · rfl
  | modelUnknown target unknown => rfl
  | versionPut target draft time info model timely stored =>
    obtain ⟨number, assigned, rfl, rfl⟩ := StoredModel.putVersion_eq_ok.mp stored
    simp only [handedOut?, replied, Std.ExtTreeMap.getD_insert, VersionDraft.info]
    by_cases same : target = modelId
    · subst same
      rcases (sound.model target).assigned_cases assigned with ⟨_, present, latest⟩ | ⟨absent, next, latest⟩
      · simp [present, latest]
      · simp [absent, latest, next]
    · simp [same, Store.model]
  | versionRefused target draft refusal refused =>
    simp only [handedOut?, replied]
    cases store with
    | tabular store => rfl
    | nested store =>
      simp only [refusing, Std.ExtTreeMap.getD_insert]
      split
      · next same => rw [Std.LawfulEqCmp.eq_of_compare same]
      · rfl
  | versionUntimely target draft result untimely accepted =>
    rw [handedOut?, replied]
    rfl
  | versionDeleted target number model version found deleted =>
    simp only [handedOut?, Std.ExtTreeMap.getD_insert]
    split
    · next same => rw [← Std.LawfulEqCmp.eq_of_compare same, model_eq found]
    · rfl
  | versionUnknown target number refusal refused => rfl

/-- Only a call that puts a version hands out a number, and it is the next one. -/
theorem latest_apply (sound : store.Sound) (event : Event) (known : modelId ∈ (event.apply store).contents) :
    match store.handedOut? modelId event with
    | some number => number.toNat = (store.model modelId).latest.toNat + 1 ∧
      ((event.apply store).model modelId).latest = number
    | none => ((event.apply store).model modelId).latest = (store.model modelId).latest := by
  rcases apply_cases sound event with ⟨same, refused⟩ | ⟨_, nothing⟩ | ⟨call, rfl, _, served⟩
  · rw [handedOut?_of_refused refused]
    simp only [Store.model, same]
  · simp [nothing] at known
  · exact latest_served sound served rfl known

theorem contains_apply (sound : store.Sound) {event : Event} (known : modelId ∈ store.contents)
    (kept : event ≠ .call (.deleteModel modelId)) (lasting : event ≠ .call .destroy) :
    modelId ∈ (event.apply store).contents := by
  rcases apply_cases sound event with ⟨same, _⟩ | ⟨final, _⟩ | ⟨call, rfl, _, served⟩
  · rwa [same]
  · exact absurd final lasting
  · revert served
    generalize (Event.apply (.call call) store).contents = models
    generalize (store.perform call).1 = reply
    intro served
    cases served with
    | modelDeleted target model found =>
      have different : target ≠ modelId := fun same => kept (by rw [same])
      simp [different, known]
    | versionRefused target draft refusal refused =>
      cases store with
      | nested store => simp [refusing, known]
      | tabular store => exact known
    | _ => simp [known]

/-- The numbers handed out so far count up to the latest. -/
private theorem handedOut_consecutive (sound : store.Sound) {numbers : List UInt32}
    (consecutive : numbers.map (·.toNat) = List.range' 1 (store.model modelId).latest.toNat)
    (events : List Event) :
    (store.handedOut modelId numbers events).map (·.toNat) =
      List.range' 1 ((store.after events).model modelId).latest.toNat := by
  -- The numbers are those of whatever went before, since they start anew with the model.
  induction events generalizing store numbers with
  | nil => exact consecutive
  | cons event rest ih =>
    apply ih (sound_apply sound event)
    by_cases known : modelId ∈ (event.apply store).contents
    · rw [if_pos known]
      have latest := latest_apply sound event known
      cases handed : store.handedOut? modelId event with
      | none =>
        rw [handed] at latest
        simp [latest, consecutive]
      | some number =>
        rw [handed] at latest
        rw [latest.2, latest.1, List.range'_1_concat, List.map_append, consecutive, Nat.add_comm 1, ← latest.1]
        rfl
    · rw [if_neg known, model_of_unknown known]
      rfl

/-- What is true of a model that has handed out these numbers. -/
structure Numbered (store : Store) (modelId : String) (model : StoredModel) (numbers : List UInt32) :
    Prop where
  /-- They are 1, 2, 3 and so on up to the latest, which the store tells whoever asks for it. -/
  consecutive : numbers.map (·.toNat) = List.range' 1 model.latest.toNat
  told : store.isOpen = true → (store.perform (.modelInfo modelId)).1 = .ok (model.info modelId)
  /-- The versions have numbers among them. -/
  stored : ∀ number ∈ model.versions, 1 ≤ number.toNat ∧ number.toNat ≤ model.latest.toNat
  /-- Whatever happens next, unless the model ends with it, the latest number stays or is the next one. -/
  continued : ∀ event, event ≠ .call (.deleteModel modelId) → event ≠ .call .destroy →
    ∃ next, (event.apply store).contents[modelId]? = some next ∧
      match store.handedOut? modelId event with
      | some number => number.toNat = model.latest.toNat + 1 ∧ next.latest = number
      | none => next.latest = model.latest
  /-- After the last number there is that there can be, new versions are refused. -/
  exhausted : store.isOpen = true → model.latest = maxVersionNumber → ∀ draft : VersionDraft,
    draft.number ∉ model.versions →
      (store.perform (.putVersion modelId draft)).1 = .error (.fault (.numbersExhausted modelId))
  /-- Versions can be replaced at any time. -/
  replaced : store.isOpen = true → ∀ (draft : VersionDraft) (time : Moment),
    draft.number ∈ model.versions → store.kept? draft.createdAt = some time →
      (store.perform (.putVersion modelId draft)).1 =
        .ok ({ draft with createdAt := time }.info modelId draft.number)

/-- Behind the last number that there can be, nothing new is stored. -/
theorem exhausted_refuses (sound : store.Sound) (opened : store.isOpen = true)
    (last : (store.model modelId).latest = maxVersionNumber) {draft : VersionDraft}
    (new : draft.number ∉ (store.model modelId).versions) :
    (store.perform (.putVersion modelId draft)).1 = .error (.fault (.numbersExhausted modelId)) := by
  apply perform_putVersion_refused sound opened
  rw [StoredModel.putVersion_eq_error, assignNumber, if_neg, if_pos last]
  intro both
  exact new (Std.ExtTreeMap.mem_iff_contains.mpr both.2)

private theorem existing_replaced (sound : store.Sound) (opened : store.isOpen = true) {draft : VersionDraft}
    {time : Moment} (present : draft.number ∈ (store.model modelId).versions)
    (timely : store.kept? draft.createdAt = some time) :
    (store.perform (.putVersion modelId draft)).1 =
      .ok ({ draft with createdAt := time }.info modelId draft.number) := by
  have bound := ((sound.model modelId).handedOut draft.number present).1
  have positive : draft.number ≠ 0 := fun zero => by simp [zero] at bound
  refine (perform_putVersion_stored sound opened timely (StoredModel.putVersion_eq_ok.mpr ⟨_, ?_, rfl, rfl⟩)).1
  rw [assignNumber, if_pos ⟨positive, Std.ExtTreeMap.mem_iff_contains.mp present⟩]

/-- In every run of a store of either engine that starts empty, the numbers that a model has handed out
since it came into existence are 1, 2, 3 and so on up to its latest. -/
theorem numbered_after (engine : Engine) (events : List Event) (modelId : String) (model : StoredModel)
    (found : ((Store.new engine).after events).contents[modelId]? = some model) :
    Numbered ((Store.new engine).after events) modelId model ((Store.new engine).handedOut modelId [] events) := by
  have sound := sound_after (sound_new engine) events
  have same := model_eq found
  have fresh : (Store.new engine).model modelId = .new ∅ := by
    cases engine with
    | memory => rfl
    | duckdb => rfl
  constructor
  · rw [← same]
    exact handedOut_consecutive (sound_new engine) (by rw [fresh]; rfl) events
  · intro opened
    rw [perform_modelInfo sound opened, NestedStore.model, found]
    rfl
  · rw [← same]
    exact (sound.model modelId).handedOut
  · intro event kept lasting
    have known := contains_apply sound (Std.ExtTreeMap.mem_iff_isSome_getElem?.mpr (by simp [found])) kept lasting
    obtain ⟨next, nextFound⟩ := Option.isSome_iff_exists.mp (Std.ExtTreeMap.mem_iff_isSome_getElem?.mp known)
    refine ⟨next, nextFound, ?_⟩
    rw [← same, ← model_eq nextFound]
    exact latest_apply sound event known
  · intro opened last draft new
    rw [← same] at last new
    exact exhausted_refuses sound opened last new
  · intro opened draft time present timely
    rw [← same] at present
    exact existing_replaced sound opened present timely

/-- A run that frees the highest number and then asks for the next one. -/
theorem numbered_after_deletion :
    let draft : VersionDraft := ⟨0, ⟨0, 0⟩, false, "", [], ∅, by decide⟩
    let run : List Event := [.call (.putVersion "m" draft), .call (.deleteVersion "m" 0),
      .call (.putVersion "m" draft)]
    let model : StoredModel := ⟨2, ∅, (∅ : Std.ExtTreeMap UInt32 StoredVersion).insert 2 ⟨draft.info "m" 2, []⟩⟩
    ((Store.new .duckdb).after run).contents["m"]? = some model ∧
      (Store.new .duckdb).handedOut "m" [] run = [1, 2] ∧
      Numbered ((Store.new .duckdb).after run) "m" model ((Store.new .duckdb).handedOut "m" [] run) := by
  intro draft run model
  have found : ((Store.new .duckdb).after run).contents["m"]? = some model := by decide +kernel
  exact ⟨found, by decide +kernel, numbered_after .duckdb run "m" model found⟩

end ModelVault.Storage.Store
