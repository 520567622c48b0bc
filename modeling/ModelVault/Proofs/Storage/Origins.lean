import ModelVault.Proofs.Storage.Sparing

/-!
The versions that a store holds: which of them a number means, what an event makes of them, and which write
each of them comes from.
-/

namespace ModelVault.Storage.Store

variable {store : Store} {modelId : String} {number requested : UInt32} {version : StoredVersion}

theorem holds_iff : store.Holds modelId number version ↔ (store.model modelId).versions[number]? = some version := by
  constructor
  · rintro ⟨model, found, stored⟩
    rwa [model_eq found]
  · intro stored
    cases found : store.contents[modelId]? with
    | some model =>
      rw [model_eq found] at stored
      exact ⟨model, found, stored⟩
    | none =>
      rw [Store.model, Std.ExtTreeMap.getD_eq_getD_getElem?, found] at stored
      simp [StoredModel.new] at stored

theorem Holds.unique {other : StoredVersion} (holds : store.Holds modelId number version)
    (also : store.Holds modelId number other) : version = other :=
  Option.some.inj ((holds_iff.mp holds).symm.trans (holds_iff.mp also))

theorem Holds.described (holds : store.Holds modelId number version) (sound : store.Sound) :
    version.info.modelId = modelId ∧ version.info.number = number ∧ version.info.size = version.data.length :=
  (sound.model modelId).described number version (holds_iff.mp holds)

theorem Holds.positive (holds : store.Holds modelId number version) (sound : store.Sound) : number ≠ 0 := by
  rintro rfl
  have present : (0 : UInt32) ∈ (store.model modelId).versions :=
    Std.ExtTreeMap.mem_iff_isSome_getElem?.mpr (by simp [holds_iff.mp holds])
  have bound := ((sound.model modelId).handedOut 0 present).1
  simp at bound

/-- A number means the version that has it, and zero means the one of the highest number. -/
structure Means (store : Store) (modelId : String) (requested number : UInt32) (version : StoredVersion) :
    Prop where
  held : store.Holds modelId number version
  named : requested ≠ 0 → number = requested
  highest : requested = 0 → ∀ other otherVersion, store.Holds modelId other otherVersion → other ≤ number

theorem lookup_eq_ok :
    ((NestedStore.live store.contents).model modelId >>= (·.version modelId requested)) = .ok version ↔
      ∃ number, store.Means modelId requested number version := by
  rw [NestedStore.model]
  constructor
  · intro answered
    cases found : store.contents[modelId]? with
    | none =>
      rw [found] at answered
      cases answered
    | some model =>
      rw [found] at answered
      obtain ⟨number, stored, named, greatest⟩ := StoredModel.version_cases answered
      refine ⟨number, ⟨model, found, stored⟩, named, fun zero other otherVersion holds => ?_⟩
      rw [holds_iff, model_eq found] at holds
      exact greatest zero other (Std.ExtTreeMap.mem_iff_isSome_getElem?.mpr (by simp [holds]))
  · rintro ⟨number, ⟨model, found, stored⟩, named, highest⟩
    rw [found]
    by_cases zero : requested = 0
    · subst zero
      refine StoredModel.version_zero modelId stored fun other present => ?_
      obtain ⟨otherVersion, listed⟩ :=
        Option.isSome_iff_exists.mp (Std.ExtTreeMap.mem_iff_isSome_getElem?.mp present)
      exact highest rfl other otherVersion ⟨model, found, listed⟩
    · rw [named zero] at stored
      exact StoredModel.version_eq_ok modelId zero stored

/-- What an open store says of the version that a number means, and gives of it. -/
theorem perform_meant (sound : store.Sound) (opened : store.isOpen = true)
    (means : store.Means modelId requested number version) :
    store.perform (.versionInfo modelId requested) = (.ok version.info, store) ∧
      store.perform (.versionData modelId requested) = (.ok version.data, store) := by
  have found := lookup_eq_ok.mpr ⟨number, means⟩
  constructor
  · rw [perform_versionInfo sound opened, found]
    rfl
  · rw [perform_versionData sound opened, found]
    rfl

private theorem ok_of_map {α β : Type} {result : Except StoreError α} {told : α → β} {value : β}
    (done : result.map told = .ok value) : ∃ given, result = .ok given ∧ told given = value := by
  cases result with
  | ok given => exact ⟨given, rfl, Except.ok.inj done⟩
  | error refusal => cases done

theorem meant_of_info (sound : store.Sound) {info : VersionInfo} {after : Store}
    (answered : store.perform (.versionInfo modelId requested) = (.ok info, after)) :
    after = store ∧ ∃ number version, store.Means modelId requested number version ∧ version.info = info := by
  rw [perform_versionInfo sound (isOpen_of_answered answered nofun)] at answered
  obtain ⟨version, found, told⟩ := ok_of_map (congrArg Prod.fst answered)
  obtain ⟨number, means⟩ := lookup_eq_ok.mp found
  exact ⟨(congrArg Prod.snd answered).symm, number, version, means, told⟩

theorem meant_of_data (sound : store.Sound) {data : Bytes} {after : Store}
    (answered : store.perform (.versionData modelId requested) = (.ok data, after)) :
    after = store ∧ ∃ number version, store.Means modelId requested number version ∧ version.data = data := by
  rw [perform_versionData sound (isOpen_of_answered answered nofun)] at answered
  obtain ⟨version, found, given⟩ := ok_of_map (congrArg Prod.fst answered)
  obtain ⟨number, means⟩ := lookup_eq_ok.mp found
  exact ⟨(congrArg Prod.snd answered).symm, number, version, means, given⟩

/-- Putting this draft leaves this version under the number. -/
structure Writes (store : Store) (modelId : String) (number : UInt32) (version : StoredVersion)
    (draft : VersionDraft) : Prop where
  answered : (store.perform (.putVersion modelId draft)).1 = .ok version.info
  numbered : version.info.number = number
  data : version.data = draft.data

/-- The event takes away the version of this number, with its model or alone, or puts another in its place. -/
inductive Takes (store : Store) (modelId : String) (number : UInt32) : Event → Prop where
  | model (done : (store.perform (.deleteModel modelId)).1 = .ok ()) :
    Takes store modelId number (.call (.deleteModel modelId))
  | version (wanted : UInt32) (version : StoredVersion) (means : store.Means modelId wanted number version)
    (done : (store.perform (.deleteVersion modelId wanted)).1 = .ok ()) :
    Takes store modelId number (.call (.deleteVersion modelId wanted))
  | replaced (draft : VersionDraft) (info : VersionInfo)
    (answered : (store.perform (.putVersion modelId draft)).1 = .ok info) (numbered : info.number = number) :
    Takes store modelId number (.call (.putVersion modelId draft))

/-- What is answered to a draft that is stored: it has been assigned a number, and its time could be kept. -/
theorem putVersion_answered (sound : store.Sound) {draft : VersionDraft} {info : VersionInfo}
    (answered : (store.perform (.putVersion modelId draft)).1 = .ok info) :
    ∃ time assigned, store.kept? draft.createdAt = some time ∧
      assignNumber modelId (store.model modelId).latest draft.number
        ((store.model modelId).versions.contains draft.number) = .ok assigned ∧
      { draft with createdAt := time }.info modelId assigned = info := by
  have lasting : Call.putVersion modelId draft ≠ .destroy := nofun
  have opened := isOpen_of_answered (Prod.ext answered rfl) lasting
  have served := (perform_served sound opened lasting).1
  rw [answered] at served
  revert served
  generalize (store.perform (.putVersion modelId draft)).2.contents = models
  intro served
  cases served with
  | asked _ _ question => cases question
  | versionPut _ _ time _ model timely stored =>
    obtain ⟨assigned, handedOut, described, _⟩ := StoredModel.putVersion_eq_ok.mp stored
    exact ⟨time, assigned, timely, handedOut, described⟩

theorem info_of_putVersion (sound : store.Sound) {draft : VersionDraft} {info : VersionInfo}
    (answered : (store.perform (.putVersion modelId draft)).1 = .ok info) :
    info.modelId = modelId ∧ info.hash = draft.hash ∧ info.size = draft.data.length := by
  obtain ⟨_, _, _, _, rfl⟩ := putVersion_answered sound answered
  exact ⟨rfl, rfl, rfl⟩

theorem Means.unique {other : UInt32} {otherVersion : StoredVersion}
    (means : store.Means modelId requested number version)
    (also : store.Means modelId requested other otherVersion) : number = other := by
  by_cases zero : requested = 0
  · exact UInt32.le_antisymm (also.highest zero number version means.held)
      (means.highest zero other otherVersion also.held)
  · rw [means.named zero, also.named zero]

private theorem getD_insert (target : String) (next : StoredModel) :
    (store.contents.insert target next).getD modelId (.new ∅) =
      if target = modelId then next else store.model modelId := by
  simp only [Store.model, Std.ExtTreeMap.getD_insert, Std.LawfulEqCmp.compare_eq_iff_eq]

private theorem getD_erase (target : String) : (store.contents.erase target).getD modelId (.new ∅) =
    if target = modelId then .new ∅ else store.model modelId := by
  simp only [Store.model, Std.ExtTreeMap.getD_erase, Std.LawfulEqCmp.compare_eq_iff_eq]

private theorem getD_refusing (target : String) :
    (store.refusing target).getD modelId (.new ∅) = store.model modelId := by
  cases store with
  | tabular store => rfl
  | nested store =>
    rw [refusing, getD_insert]
    split
    · next same => rw [same]
    · rfl

/-- What is to be shown of a call: the versions in a place afterwards are those that it writes there, and those
that it leaves there. -/
private def Settles (store : Store) (modelId : String) (number : UInt32) (version : StoredVersion) (call : Call)
    (models : Std.ExtTreeMap String StoredModel) : Prop :=
  (models.getD modelId (.new ∅)).versions[number]? = some version ↔
    (∃ draft, call = .putVersion modelId draft ∧ store.Writes modelId number version draft) ∨
      (store.Holds modelId number version ∧ ¬store.Takes modelId number (.call call))

section Settles

variable {models : Std.ExtTreeMap String StoredModel} {call : Call}

private theorem Settles.of_untouched
    (same : (models.getD modelId (.new ∅)).versions = (store.model modelId).versions)
    (unwritten : ∀ draft, call = .putVersion modelId draft → ¬store.Writes modelId number version draft)
    (left : ¬store.Takes modelId number (.call call)) : store.Settles modelId number version call models := by
  rw [Settles, same, holds_iff]
  constructor
  · exact fun stored => .inr ⟨stored, left⟩
  · rintro (⟨draft, rfl, writes⟩ | ⟨stored, _⟩)
    · exact absurd writes (unwritten draft rfl)
    · exact stored

private theorem Settles.of_refused {target : String} {draft : VersionDraft} {refusal : StoreError}
    (same : models.getD modelId (.new ∅) = store.model modelId)
    (refused : (store.perform (.putVersion target draft)).1 = .error refusal) :
    store.Settles modelId number version (.putVersion target draft) models := by
  refine .of_untouched (congrArg (·.versions) same) ?_ ?_
  · rintro _ ⟨⟩ writes
    have answered := writes.answered
    rw [refused] at answered
    cases answered
  · intro taken
    cases taken with
    | replaced _ info answered numbered =>
      rw [refused] at answered
      cases answered

private theorem Settles.of_put {draft : VersionDraft} {time : Moment} {info : VersionInfo} {next : StoredModel}
    (replied : (store.perform (.putVersion modelId draft)).1 = .ok info)
    (stored : (store.model modelId).putVersion modelId { draft with createdAt := time } = .ok (info, next)) :
    store.Settles modelId number version (.putVersion modelId draft) (store.contents.insert modelId next) := by
  obtain ⟨assigned, _, rfl, rfl⟩ := StoredModel.putVersion_eq_ok.mp stored
  rw [Settles, getD_insert, if_pos rfl, Std.ExtTreeMap.getElem?_insert, holds_iff]
  simp only [Std.LawfulEqCmp.compare_eq_iff_eq]
  split
  · next here =>
    subst here
    constructor
    · intro written
      cases written
      exact .inl ⟨draft, rfl, replied, rfl, rfl⟩
    · rintro (⟨other, same, writes⟩ | ⟨_, left⟩)
      · cases same
        have answered := writes.answered
        rw [replied] at answered
        have data := writes.data
        obtain ⟨info, payload⟩ := version
        cases answered
        cases data
        rfl
      · exact absurd (.replaced draft _ replied rfl) left
  · next elsewhere =>
    constructor
    · refine fun old => .inr ⟨old, fun taken => ?_⟩
      cases taken with
      | replaced _ info answered numbered =>
        rw [replied] at answered
        cases answered
        exact elsewhere numbered
    · rintro (⟨other, same, writes⟩ | ⟨old, _⟩)
      · cases same
        have answered := writes.answered
        rw [replied] at answered
        have numbered := writes.numbered
        rw [← Except.ok.inj answered] at numbered
        exact absurd numbered elsewhere
      · exact old

private theorem Settles.of_deleted (sound : store.Sound) {wanted : UInt32} {model : StoredModel}
    {deleted : StoredVersion} (known : store.contents[modelId]? = some model)
    (found : model.version modelId wanted = .ok deleted)
    (replied : (store.perform (.deleteVersion modelId wanted)).1 = .ok ()) :
    store.Settles modelId number version (.deleteVersion modelId wanted) (store.contents.insert modelId
      { model with versions := model.versions.erase deleted.info.number }) := by
  have looked : ((NestedStore.live store.contents).model modelId >>= (·.version modelId wanted)) = .ok deleted := by
    rw [NestedStore.model, known]
    exact found
  obtain ⟨key, means⟩ := lookup_eq_ok.mp looked
  rw [Settles, getD_insert, if_pos rfl, (means.held.described sound).2.1, Std.ExtTreeMap.getElem?_erase, holds_iff,
    model_eq known]
  simp only [Std.LawfulEqCmp.compare_eq_iff_eq]
  split
  · next here =>
    subst here
    constructor
    · intro stored
      cases stored
    · rintro (⟨draft, same, _⟩ | ⟨_, left⟩)
      · cases same
      · exact absurd (.version wanted deleted means replied) left
  · next elsewhere =>
    constructor
    · refine fun old => .inr ⟨old, fun taken => ?_⟩
      cases taken with
      | version _ other also done => exact elsewhere (means.unique also)
    · rintro (⟨draft, same, _⟩ | ⟨old, _⟩)
      · cases same
      · exact old

private theorem settles_served (sound : store.Sound) {reply : call.Reply} (served : store.Served call reply models)
    (replied : (store.perform call).1 = reply) : store.Settles modelId number version call models := by
  cases served with
  | asked _ _ question =>
    refine .of_untouched rfl ?_ ?_
    · rintro draft rfl
      cases question
    · intro taken
      cases taken <;> cases question
  | modelPut target userData next put =>
    refine .of_untouched ?_ (by rintro _ ⟨⟩) (by rintro ⟨⟩)
    rw [getD_insert]
    split
    · next same => rw [put, same]
    · rfl
  | modelDeleted target other known =>
    by_cases here : target = modelId
    · subst here
      rw [Settles, getD_erase, if_pos rfl]
      constructor
      · intro stored
        simp [StoredModel.new] at stored
      · rintro (⟨draft, same, _⟩ | ⟨_, left⟩)
        · cases same
        · exact absurd (.model replied) left
    · refine .of_untouched ?_ (by rintro _ ⟨⟩) ?_
      · rw [getD_erase, if_neg here]
      · rintro ⟨⟩
        exact here rfl
  | modelUnknown target unknown =>
    refine .of_untouched rfl (by rintro _ ⟨⟩) ?_
    rintro ⟨done⟩
    rw [replied] at done
    cases done
  | versionPut target draft time info next timely stored =>
    by_cases here : target = modelId
    · subst here
      exact .of_put replied stored
    · refine .of_untouched ?_ ?_ ?_
      · rw [getD_insert, if_neg here]
      · rintro other ⟨⟩
        exact absurd rfl here
      · rintro ⟨⟩
        exact here rfl
  | versionRefused target draft refusal refused => exact .of_refused (getD_refusing target) replied
  | versionUntimely target draft result untimely accepted => exact .of_refused rfl replied
  | versionDeleted target wanted model deleted known found =>
    by_cases here : target = modelId
    · subst here
      exact .of_deleted sound known found replied
    · refine .of_untouched ?_ (by rintro _ ⟨⟩) ?_
      · rw [getD_insert, if_neg here]
      · rintro ⟨⟩
        exact here rfl
  | versionUnknown target wanted refusal refused =>
    refine .of_untouched rfl (by rintro _ ⟨⟩) ?_
    intro taken
    cases taken with
    | version wanted other means done =>
      rw [replied] at done
      cases done

end Settles

/-- After an event, the store holds a version exactly if the event has written it, or if the store held it
before and the event has not taken it away. -/
theorem holds_apply_iff (sound : store.Sound) {event : Event} (lasting : event ≠ .call .destroy) :
    (event.apply store).Holds modelId number version ↔
      (∃ draft, event = .call (.putVersion modelId draft) ∧ store.Writes modelId number version draft) ∨
        (store.Holds modelId number version ∧ ¬store.Takes modelId number event) := by
  rcases apply_cases sound event with ⟨same, silent⟩ | ⟨destroyed, _⟩ | ⟨call, rfl, _, served⟩
  · have unanswered : ∀ {call : Call}, event = .call call → (store.perform call).1 = .error .destroyed := by
      rintro call rfl
      exact (silent call rfl).resolve_left fun final => lasting (final ▸ rfl)
    have unwritten : ∀ draft, event = .call (.putVersion modelId draft) →
        ¬store.Writes modelId number version draft := by
      rintro draft made writes
      have answered := writes.answered
      rw [unanswered made] at answered
      cases answered
    have left : ¬store.Takes modelId number event := by
      intro taken
      cases taken with
      | model done =>
        rw [unanswered rfl] at done
        cases done
      | version wanted other means done =>
        rw [unanswered rfl] at done
        cases done
      | replaced draft info answered numbered =>
        rw [unanswered rfl] at answered
        cases answered
    have model : (event.apply store).model modelId = store.model modelId := by rw [Store.model, same, Store.model]
    rw [holds_iff, holds_iff, model]
    constructor
    · exact fun old => .inr ⟨old, left⟩
    · rintro (⟨draft, made, writes⟩ | ⟨old, _⟩)
      · exact absurd writes (unwritten draft made)
      · exact old
  · exact absurd destroyed lasting
  · have settled : store.Settles modelId number version call _ := settles_served sound served rfl
    rw [holds_iff, Store.model]
    simp only [Event.call.injEq]
    exact settled

/-- What is said of a draft that is put is held then, with its data. -/
theorem holds_of_put (sound : store.Sound) {draft : VersionDraft} {info : VersionInfo}
    (answered : (store.perform (.putVersion modelId draft)).1 = .ok info) :
    (store.perform (.putVersion modelId draft)).2.Holds modelId info.number ⟨info, draft.data⟩ := by
  have written : store.Writes modelId info.number ⟨info, draft.data⟩ draft := ⟨answered, rfl, rfl⟩
  have lasting : Event.call (.putVersion modelId draft) ≠ .call .destroy := nofun
  exact (holds_apply_iff sound lasting).mpr (.inl ⟨draft, rfl, written⟩)

theorem isOpen_apply (opened : store.isOpen = true) (sound : store.Sound) {event : Event}
    (lasting : event ≠ .call .destroy) : (event.apply store).isOpen = true := by
  cases event with
  | reopened =>
    cases store with
    | nested store => exact opened
    | tabular store => rfl
  | call call => exact (perform_served sound opened fun final => lasting (final ▸ rfl)).2.2

theorem isOpen_after (opened : store.isOpen = true) (sound : store.Sound) {events : List Event}
    (lasting : .call .destroy ∉ events) : (store.after events).isOpen = true := by
  induction events generalizing store with
  | nil => exact opened
  | cons event rest ih =>
    obtain ⟨first, others⟩ := List.ne_and_not_mem_of_not_mem_cons lasting
    exact ih (isOpen_apply opened sound (Ne.symm first)) (sound_apply sound event) others

/-- What a store holds after a run it held before, or a draft of the run was put there. -/
theorem held_before_or_written (sound : store.Sound) {events : List Event} (lasting : .call .destroy ∉ events)
    (holds : (store.after events).Holds modelId number version) :
    store.Holds modelId number version ∨ ∃ before draft rest,
      events = before ++ .call (.putVersion modelId draft) :: rest ∧
        (store.after before).Writes modelId number version draft := by
  induction events generalizing store with
  | nil => exact .inl holds
  | cons event rest ih =>
    obtain ⟨first, others⟩ := List.ne_and_not_mem_of_not_mem_cons lasting
    rcases ih (sound_apply sound event) others holds with early | ⟨before, draft, later, same, writes⟩
    · rcases (holds_apply_iff sound (Ne.symm first)).mp early with ⟨draft, rfl, writes⟩ | ⟨old, _⟩
      · exact .inr ⟨[], draft, rest, rfl, writes⟩
      · exact .inl old
    · exact .inr ⟨event :: before, draft, later, by rw [same]; rfl, writes⟩

/-- No event of the run takes the version of this number away. -/
def LeavesAlone (store : Store) (modelId : String) (number : UInt32) (events : List Event) : Prop :=
  ∀ before event rest, events = before ++ event :: rest → ¬(store.after before).Takes modelId number event

theorem leavesAlone_cons {event : Event} {rest : List Event} : store.LeavesAlone modelId number (event :: rest) ↔
    ¬store.Takes modelId number event ∧ (event.apply store).LeavesAlone modelId number rest := by
  constructor
  · intro left
    refine ⟨left [] event rest rfl, ?_⟩
    rintro before other later rfl
    exact left (event :: before) other later rfl
  · rintro ⟨first, others⟩ before other later split
    cases before with
    | nil =>
      cases split
      exact first
    | cons head before =>
      cases split
      exact others before other later rfl

/-- A run that leaves a version alone leaves it where it is. -/
theorem Holds.after (holds : store.Holds modelId number version) (sound : store.Sound) {events : List Event}
    (lasting : .call .destroy ∉ events) (left : store.LeavesAlone modelId number events) :
    (store.after events).Holds modelId number version := by
  induction events generalizing store with
  | nil => exact holds
  | cons event rest ih =>
    obtain ⟨first, others⟩ := List.ne_and_not_mem_of_not_mem_cons lasting
    obtain ⟨kept, leftRest⟩ := leavesAlone_cons.mp left
    exact ih ((holds_apply_iff sound (Ne.symm first)).mpr (.inr ⟨holds, kept⟩)) (sound_apply sound event) others
      leftRest

end ModelVault.Storage.Store
