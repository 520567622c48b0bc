import ModelVault.Proofs.Storage.Runs

/-!
Both engines are one store to those who call them: while they hold the same, they answer alike and go on to
hold the same. Only times may differ in form, which the tables keep as counts of nanoseconds.
-/

namespace ModelVault

/-- The same point in time in the form that its count of nanoseconds gives it. -/
def Moment.counted (time : Moment) : Moment :=
  .ofNanoseconds time.nanoseconds

@[simp] theorem Moment.counted_ofNanoseconds (count : Int) :
    (ofNanoseconds count).counted = ofNanoseconds count := by
  rw [counted, nanoseconds_ofNanoseconds]

def VersionInfo.counted (info : VersionInfo) : VersionInfo :=
  { info with createdAt := info.createdAt.counted }

namespace Storage

def StoredVersion.counted (version : StoredVersion) : StoredVersion :=
  { version with info := version.info.counted }

def StoredModel.counted (model : StoredModel) : StoredModel :=
  { model with versions := model.versions.map fun _ => StoredVersion.counted }

@[simp] theorem StoredModel.latest_counted (model : StoredModel) : model.counted.latest = model.latest := rfl

@[simp] theorem StoredModel.userData_counted (model : StoredModel) : model.counted.userData = model.userData := rfl

/-- A reply in which all times are counts of nanoseconds. -/
def Call.countedReply : (call : Call) → call.Reply → call.Reply
  | .putVersion _ _, reply => Except.map VersionInfo.counted reply
  | .versionInfo _ _, reply => Except.map VersionInfo.counted reply
  | .listVersions _ _ _, reply => Except.map (List.map VersionInfo.counted) reply
  | _, reply => reply

/-- A call names no time but one that a row of the tables can keep. -/
def Call.Timely : Call → Prop
  | .putVersion _ draft => IsInt64 draft.createdAt.nanoseconds
  | _ => True

def countedModels (models : Std.ExtTreeMap String StoredModel) : Std.ExtTreeMap String StoredModel :=
  models.map fun _ => StoredModel.counted

section Maps

variable {Key Value Value' : Type} [Ord Key] [Std.TransOrd Key] [Std.LawfulEqOrd Key]

private theorem map_insert (convert : Value → Value') (entries : Std.ExtTreeMap Key Value) (key : Key)
    (value : Value) : (entries.insert key value).map (fun _ => convert) =
      (entries.map fun _ => convert).insert key (convert value) := by
  apply Std.ExtTreeMap.ext_getElem?
  intro other
  rw [Std.ExtTreeMap.getElem?_map, Std.ExtTreeMap.getElem?_insert, Std.ExtTreeMap.getElem?_insert,
    Std.ExtTreeMap.getElem?_map]
  split <;> rfl

private theorem map_erase (convert : Value → Value') (entries : Std.ExtTreeMap Key Value) (key : Key) :
    (entries.erase key).map (fun _ => convert) = (entries.map fun _ => convert).erase key := by
  apply Std.ExtTreeMap.ext_getElem?
  intro other
  rw [Std.ExtTreeMap.getElem?_map, Std.ExtTreeMap.getElem?_erase, Std.ExtTreeMap.getElem?_erase,
    Std.ExtTreeMap.getElem?_map]
  split <;> rfl

end Maps

namespace StoredModel

variable {model other next : StoredModel} {modelId : String}

private theorem version_counted (model : StoredModel) (modelId : String) (number : UInt32) :
    model.counted.version modelId number = (model.version modelId number).map (·.counted) := by
  have sameEmpty : model.counted.versions.isEmpty = model.versions.isEmpty := by
    rw [Bool.eq_iff_iff, Std.ExtTreeMap.isEmpty_iff, Std.ExtTreeMap.isEmpty_iff]
    exact Std.ExtTreeMap.map_eq_empty_iff
  rw [version, version, sameEmpty]
  by_cases empty : model.versions.isEmpty
  · rw [if_pos empty, if_pos empty]
    rfl
  · rw [if_neg empty, if_neg empty]
    by_cases zero : number = 0
    · simp only [zero, if_true, counted, Std.ExtTreeMap.toList_map, List.getLast?_map, Option.map_map]
      cases model.versions.toList.getLast? with
      | none => rfl
      | some entry => rfl
    · simp only [zero, if_false, counted, Std.ExtTreeMap.getElem?_map]
      cases model.versions[number]? with
      | none => rfl
      | some version => rfl

private theorem assignNumber_agrees (same : model.counted = other.counted) (requested : UInt32) :
    assignNumber modelId model.latest requested (model.versions.contains requested) =
      assignNumber modelId other.latest requested (other.versions.contains requested) := by
  have latest : model.latest = other.latest := by rw [← latest_counted, same, latest_counted]
  have versions := congrArg (fun model : StoredModel => model.versions.contains requested) same
  simp only [counted, Std.ExtTreeMap.contains_map] at versions
  rw [latest, versions]

private theorem putVersion_refused_agrees (same : model.counted = other.counted) {draft : VersionDraft}
    {refusal : StoreError} (refused : model.putVersion modelId draft = .error refusal) (time : Moment) :
    other.putVersion modelId { draft with createdAt := time } = .error refusal := by
  rw [putVersion_eq_error] at refused ⊢
  rw [← assignNumber_agrees same]
  exact refused

private theorem putVersion_stored_agrees (same : model.counted = other.counted) {draft : VersionDraft}
    {time otherTime : Moment} (sameTime : time.counted = otherTime.counted) {info otherInfo : VersionInfo}
    {otherNext : StoredModel}
    (stored : model.putVersion modelId { draft with createdAt := time } = .ok (info, next))
    (otherStored : other.putVersion modelId { draft with createdAt := otherTime } = .ok (otherInfo, otherNext)) :
    info.counted = otherInfo.counted ∧ next.counted = otherNext.counted := by
  obtain ⟨number, assigned, rfl, rfl⟩ := putVersion_eq_ok.mp stored
  obtain ⟨otherNumber, otherAssigned, rfl, rfl⟩ := putVersion_eq_ok.mp otherStored
  rw [assignNumber_agrees same] at assigned
  dsimp only at assigned otherAssigned
  rw [assigned] at otherAssigned
  cases otherAssigned
  have latest : model.latest = other.latest := by rw [← latest_counted, same, latest_counted]
  have userData : model.userData = other.userData := by rw [← userData_counted, same, userData_counted]
  have versions : (model.versions.map fun _ => StoredVersion.counted) =
      other.versions.map fun _ => StoredVersion.counted := congrArg StoredModel.versions same
  have info : ({ draft with createdAt := time }.info modelId number).counted =
      ({ draft with createdAt := otherTime }.info modelId number).counted := by
    simp only [VersionInfo.counted, VersionDraft.info, sameTime]
  refine ⟨info, ?_⟩
  simp only [counted, map_insert, latest, userData, versions, StoredVersion.counted, info]

end StoredModel

private theorem version_countedModels (models : Std.ExtTreeMap String StoredModel) (modelId : String)
    (number : UInt32) :
    ((NestedStore.live (countedModels models)).model modelId >>= (·.version modelId number)) =
      ((NestedStore.live models).model modelId >>= (·.version modelId number)).map (·.counted) := by
  simp only [NestedStore.model, countedModels, Std.ExtTreeMap.getElem?_map]
  cases models[modelId]? with
  | none => rfl
  | some model => exact model.version_counted modelId number

private theorem question_countedModels {call : Call} (question : call.isQuestion = true)
    (models : Std.ExtTreeMap String StoredModel) :
    (NestedStore.perform call (.live (countedModels models))).1 =
      call.countedReply (NestedStore.perform call (.live models)).1 := by
  cases call with
  | modelInfo modelId =>
    simp only [NestedStore.perform, NestedStore.model, countedModels, Std.ExtTreeMap.getElem?_map]
    cases models[modelId]? with
    | none => rfl
    | some model => rfl
  | hasModel modelId => exact congrArg Except.ok Std.ExtTreeMap.contains_map
  | listModels offset limit =>
    have sameKeys : (countedModels models).keys = models.keys := Std.ExtTreeMap.keys_map
    simp only [NestedStore.perform, NestedStore.listModels, sameKeys]
    rfl
  | versionInfo modelId number =>
    simp only [NestedStore.perform, version_countedModels, Call.countedReply]
    cases ((NestedStore.live models).model modelId >>= (·.version modelId number)) with
    | error refusal => rfl
    | ok version => rfl
  | versionData modelId number =>
    simp only [NestedStore.perform, version_countedModels, Call.countedReply]
    cases ((NestedStore.live models).model modelId >>= (·.version modelId number)) with
    | error refusal => rfl
    | ok version => rfl
  | listVersions modelId first limit =>
    simp only [NestedStore.perform, NestedStore.listVersions, NestedStore.model, countedModels,
      Std.ExtTreeMap.getElem?_map, Call.countedReply]
    cases models[modelId]? with
    | none => rfl
    | some model =>
      apply congrArg Except.ok
      simp only [StoredModel.counted, Std.ExtTreeMap.toList_map, List.filter_map, ← List.map_take, List.map_map]
      rfl
  | _ => cases question

namespace Store

/-- Two stores are both destroyed, or neither is and they hold the same models with the same versions. -/
structure Agrees (first second : Store) : Prop where
  isOpen : first.isOpen = second.isOpen
  models : first.isOpen = true → countedModels first.contents = countedModels second.contents

/-- Signed 64-bit integers can count the models before the position that a listing starts at. -/
def Counts (store : Store) : Call → Prop
  | .listModels offset _ => offset ≤ maxInt64.toNat ∨ store.contents.size ≤ maxInt64.toNat
  | _ => True

variable {first second : Store}

private theorem perform_question {store : Store} (sound : store.Sound) (opened : store.isOpen = true) {call : Call}
    (question : call.isQuestion = true) (counts : store.Counts call) :
    store.perform call = ((NestedStore.perform call (.live store.contents)).1, store) := by
  cases call with
  | modelInfo modelId => exact perform_modelInfo sound opened modelId
  | hasModel modelId => exact perform_hasModel sound opened modelId
  | listModels offset limit => exact perform_listModels sound opened limit counts
  | versionInfo modelId number => exact perform_versionInfo sound opened modelId number
  | versionData modelId number => exact perform_versionData sound opened modelId number
  | listVersions modelId first limit => exact perform_listVersions sound opened modelId first limit
  | _ => cases question

section Changes

variable {modelId : String} {models otherModels : Std.ExtTreeMap String StoredModel}
  (same : countedModels first.contents = countedModels second.contents)

include same

private theorem found_agrees (modelId : String) :
    first.contents[modelId]?.map StoredModel.counted = second.contents[modelId]?.map StoredModel.counted := by
  have found := congrArg (fun models : Std.ExtTreeMap String StoredModel => models[modelId]?) same
  simpa only [countedModels, Std.ExtTreeMap.getElem?_map] using found

private theorem model_agrees (modelId : String) :
    (first.model modelId).counted = (second.model modelId).counted := by
  have found := congrArg (·.getD (StoredModel.new ∅).counted) (found_agrees same modelId)
  rwa [Option.getD_map, Option.getD_map, ← Std.ExtTreeMap.getD_eq_getD_getElem?,
    ← Std.ExtTreeMap.getD_eq_getD_getElem?] at found

private theorem insert_agrees {model other : StoredModel} (agrees : model.counted = other.counted) :
    countedModels (first.contents.insert modelId model) =
      countedModels (second.contents.insert modelId other) := by
  rw [countedModels, countedModels, map_insert, map_insert, agrees]
  exact congrArg (·.insert modelId other.counted) same

private theorem version_agrees (modelId : String) (number : UInt32) :
    ((NestedStore.live first.contents).model modelId >>= (·.version modelId number)).map StoredVersion.counted =
      ((NestedStore.live second.contents).model modelId >>= (·.version modelId number)).map
        StoredVersion.counted := by
  rw [← version_countedModels, ← version_countedModels, same]

private theorem modelPut_agrees {userData : UserData} {reply otherReply : Except StoreError ModelInfo}
    (served : first.Served (.putModel modelId userData) reply models)
    (otherServed : second.Served (.putModel modelId userData) otherReply otherModels) :
    reply = otherReply ∧ countedModels models = countedModels otherModels := by
  cases served with
  | asked _ _ question => cases question
  | modelPut _ _ model put =>
    cases otherServed with
    | asked _ _ question => cases question
    | modelPut _ _ other otherPut =>
      subst put otherPut
      have before := model_agrees same modelId
      have latest : (first.model modelId).latest = (second.model modelId).latest := by
        rw [← StoredModel.latest_counted, before, StoredModel.latest_counted]
      refine ⟨by rw [StoredModel.info, StoredModel.info, latest], insert_agrees same ?_⟩
      simp only [StoredModel.counted, StoredModel.mk.injEq] at before ⊢
      exact ⟨latest, trivial, before.2.2⟩

private theorem modelDeleted_agrees {reply otherReply : Except StoreError Unit}
    (served : first.Served (.deleteModel modelId) reply models)
    (otherServed : second.Served (.deleteModel modelId) otherReply otherModels) :
    reply = otherReply ∧ countedModels models = countedModels otherModels := by
  have found := found_agrees same modelId
  cases served with
  | asked _ _ question => cases question
  | modelDeleted _ model known =>
    cases otherServed with
    | asked _ _ question => cases question
    | modelDeleted _ other otherKnown =>
      refine ⟨rfl, ?_⟩
      rw [countedModels, countedModels, map_erase, map_erase]
      exact congrArg (·.erase modelId) same
    | modelUnknown _ unknown =>
      rw [known, unknown] at found
      cases found
  | modelUnknown _ unknown =>
    cases otherServed with
    | asked _ _ question => cases question
    | modelDeleted _ other otherKnown =>
      rw [unknown, otherKnown] at found
      cases found
    | modelUnknown _ otherUnknown => exact ⟨rfl, same⟩

private theorem versionPut_agrees {draft : VersionDraft} {reply otherReply : Except StoreError VersionInfo}
    (served : first.Served (.putVersion modelId draft) reply models)
    (otherServed : second.Served (.putVersion modelId draft) otherReply otherModels) {time otherTime : Moment}
    (kept : first.kept? draft.createdAt = some time) (otherKept : second.kept? draft.createdAt = some otherTime)
    (sameTime : time.counted = otherTime.counted) :
    reply.map VersionInfo.counted = otherReply.map VersionInfo.counted ∧
      ((∃ info, reply = .ok info) → countedModels models = countedModels otherModels) := by
  have before := model_agrees same modelId
  cases outcome : (first.model modelId).putVersion modelId { draft with createdAt := time } with
  | error refusal =>
    have refused := StoredModel.putVersion_refused_agrees rfl outcome draft.createdAt
    have otherRefused := StoredModel.putVersion_refused_agrees before outcome draft.createdAt
    rw [(served.of_refused refused).1, (otherServed.of_refused otherRefused).1]
    exact ⟨rfl, fun ⟨info, impossible⟩ => nomatch impossible⟩
  | ok stored =>
    cases otherOutcome : (second.model modelId).putVersion modelId { draft with createdAt := otherTime } with
    | error refusal =>
      have refused := StoredModel.putVersion_refused_agrees before.symm otherOutcome time
      rw [outcome] at refused
      cases refused
    | ok otherStored =>
      obtain ⟨info, next⟩ := StoredModel.putVersion_stored_agrees before sameTime outcome otherOutcome
      obtain ⟨rfl, rfl⟩ := served.of_stored kept outcome
      obtain ⟨rfl, rfl⟩ := otherServed.of_stored otherKept otherOutcome
      exact ⟨congrArg Except.ok info, fun _ => insert_agrees same next⟩

private theorem versionDeleted_agrees {number : UInt32} {reply otherReply : Except StoreError Unit}
    (served : first.Served (.deleteVersion modelId number) reply models)
    (otherServed : second.Served (.deleteVersion modelId number) otherReply otherModels) :
    reply = otherReply ∧ countedModels models = countedModels otherModels := by
  have means := version_agrees same modelId number
  cases served with
  | asked _ _ question => cases question
  | versionDeleted _ _ model version known found =>
    rw [NestedStore.model, known] at means
    cases otherServed with
    | asked _ _ question => cases question
    | versionDeleted _ _ other otherVersion otherKnown otherFound =>
      rw [NestedStore.model, otherKnown] at means
      change (model.version modelId number).map _ = (other.version modelId number).map _ at means
      rw [found, otherFound] at means
      have sameNumber : version.info.number = otherVersion.info.number :=
        congrArg (·.info.number) (Except.ok.inj means)
      have agrees := found_agrees same modelId
      rw [known, otherKnown] at agrees
      refine ⟨rfl, insert_agrees same ?_⟩
      simp only [Option.map_some, Option.some.injEq, StoredModel.counted, StoredModel.mk.injEq] at agrees ⊢
      exact ⟨agrees.1, agrees.2.1, by rw [map_erase, map_erase, agrees.2.2, sameNumber]⟩
    | versionUnknown _ _ refusal refused =>
      change (model.version modelId number).map _ = _ at means
      rw [found, refused] at means
      cases means
  | versionUnknown _ _ refusal refused =>
    rw [refused] at means
    cases otherServed with
    | asked _ _ question => cases question
    | versionDeleted _ _ other otherVersion otherKnown otherFound =>
      rw [NestedStore.model, otherKnown] at means
      change _ = (other.version modelId number).map _ at means
      rw [otherFound] at means
      cases means
    | versionUnknown _ _ otherRefusal otherRefused =>
      rw [otherRefused] at means
      exact ⟨congrArg Except.error (Except.error.inj means), same⟩

end Changes

private theorem kept?_counted (store : Store) {time : Moment} (timely : IsInt64 time.nanoseconds) :
    ∃ kept, store.kept? time = some kept ∧ kept.counted = time.counted := by
  cases store with
  | nested store => exact ⟨time, rfl, rfl⟩
  | tabular store =>
    refine ⟨_, by rw [kept?, Moment.nanoseconds?, if_pos timely, Option.map_some], ?_⟩
    rw [Moment.counted_ofNanoseconds]
    rfl

private theorem counts_agrees (same : countedModels first.contents = countedModels second.contents) {call : Call}
    (counts : first.Counts call) : second.Counts call := by
  cases call with
  | listModels offset limit =>
    have sameSize : first.contents.size = second.contents.size := by
      have sizes := congrArg (·.size) same
      simpa only [countedModels, Std.ExtTreeMap.size_map] using sizes
    rw [Counts, ← sameSize]
    exact counts
  | _ => trivial

private theorem perform_destroy (store : Store) :
    (store.perform .destroy).1 = .ok () ∧ (store.perform .destroy).2.isOpen = false := by
  cases store with
  | nested store => exact ⟨rfl, rfl⟩
  | tabular store => exact ⟨rfl, rfl⟩

/-- Stores that hold the same answer alike, and what succeeds leaves them holding the same. -/
private theorem perform_agrees (sound : first.Sound) (otherSound : second.Sound) (agrees : first.Agrees second)
    {call : Call} (timely : call.Timely) (counts : first.Counts call) :
    call.countedReply (first.perform call).1 = call.countedReply (second.perform call).1 ∧
      ((∃ value, (first.perform call).1 = .ok value) → (first.perform call).2.Agrees (second.perform call).2) := by
  by_cases final : call = .destroy
  · subst final
    obtain ⟨replied, closed⟩ := perform_destroy first
    obtain ⟨otherReplied, otherClosed⟩ := perform_destroy second
    refine ⟨by rw [replied, otherReplied], fun _ => ⟨closed.trans otherClosed.symm, ?_⟩⟩
    rw [closed]
    exact nofun
  cases opened : first.isOpen with
  | false =>
    rw [perform_closed opened final, perform_closed (agrees.isOpen.symm.trans opened) final]
    exact ⟨rfl, fun _ => agrees⟩
  | true =>
    have otherOpen := agrees.isOpen.symm.trans opened
    have same := agrees.models opened
    obtain ⟨served, _, stillOpen⟩ := perform_served sound opened final
    obtain ⟨otherServed, _, otherStillOpen⟩ := perform_served otherSound otherOpen final
    have after (models : countedModels (first.perform call).2.contents =
        countedModels (second.perform call).2.contents) : (first.perform call).2.Agrees (second.perform call).2 :=
      ⟨stillOpen.trans otherStillOpen.symm, fun _ => models⟩
    cases call with
    | destroy => exact absurd rfl final
    | putModel modelId userData =>
      obtain ⟨replied, models⟩ := modelPut_agrees same served otherServed
      exact ⟨replied, fun _ => after models⟩
    | deleteModel modelId =>
      obtain ⟨replied, models⟩ := modelDeleted_agrees same served otherServed
      exact ⟨replied, fun _ => after models⟩
    | putVersion modelId draft =>
      obtain ⟨time, kept, counted⟩ := kept?_counted first timely
      obtain ⟨otherTime, otherKept, otherCounted⟩ := kept?_counted second timely
      obtain ⟨replied, models⟩ :=
        versionPut_agrees same served otherServed kept otherKept (counted.trans otherCounted.symm)
      exact ⟨replied, fun stored => after (models stored)⟩
    | deleteVersion modelId number =>
      obtain ⟨replied, models⟩ := versionDeleted_agrees same served otherServed
      exact ⟨replied, fun _ => after models⟩
    | _ =>
      rw [perform_question sound opened rfl counts,
        perform_question otherSound otherOpen rfl (counts_agrees same counts),
        ← question_countedModels rfl, ← question_countedModels rfl, same]
      exact ⟨rfl, fun _ => agrees⟩

/-- While the engine in memory and the one of tables hold the same, they answer every call alike, and a call
that succeeds leaves them holding the same; tables that are given up and opened again are as they were. The
call may name any time that a row can keep, and any position that signed 64-bit integers can tell from the end
of the models, of which an address space has room for fewer than those count. -/
theorem engines_agree (memory : NestedStore) (tables : TableStore) (memoryReachable : (nested memory).Reachable)
    (tablesReachable : (tabular tables).Reachable) (agrees : (nested memory).Agrees (tabular tables)) (call : Call)
    (timely : call.Timely) (counts : (nested memory).Counts call) :
    call.countedReply (memory.perform call).1 = call.countedReply (tables.perform call).1 ∧
      ((∃ value, (memory.perform call).1 = .ok value) →
        (nested (memory.perform call).2).Agrees (tabular (tables.perform call).2)) ∧
      (tables.isOpen = true → tables.reopen = tables ∧ (tables.perform .destroy).2.reopen = tables) := by
  obtain ⟨replied, after⟩ := perform_agrees memoryReachable.sound tablesReachable.sound agrees timely counts
  refine ⟨replied, after, ?_⟩
  intro opened
  obtain ⟨isOpen, rows⟩ := tables
  cases opened
  exact ⟨TableStore.reopen_eq _, TableStore.reopen_eq _⟩

/-- A leap second is kept as it came by the one and as a second later by the other, which is the same count of
nanoseconds, when it is stored and when it is asked for. -/
theorem engines_agree_leap_second :
    let put : Call := .putVersion "m" ⟨0, ⟨59, 1500000000⟩, false, "", [7], ∅, by decide⟩
    let asked : Call := .versionInfo "m" 0
    let memory := NestedStore.empty.perform put
    let tables := TableStore.empty.perform put
    memory.1 ≠ tables.1 ∧ put.countedReply memory.1 = put.countedReply tables.1 ∧
      asked.countedReply (memory.2.perform asked).1 = asked.countedReply (tables.2.perform asked).1 := by
  intro put asked memory tables
  have differ : memory.1 ≠ tables.1 := by
    intro same
    have times := congrArg (fun reply : Except StoreError VersionInfo => reply.toOption.map (·.createdAt)) same
    exact absurd times (by decide +kernel)
  have timely : put.Timely := by
    change IsInt64 _
    decide
  have stored : ∃ value, memory.1 = .ok value := ⟨_, rfl⟩
  have first := engines_agree .empty .empty ⟨.memory, [], rfl⟩ ⟨.duckdb, [], rfl⟩ ⟨rfl, fun _ => rfl⟩ put
    timely trivial
  have later := engines_agree memory.2 tables.2 ⟨.memory, [.call put], rfl⟩ ⟨.duckdb, [.call put], rfl⟩
    (first.2.1 stored) asked trivial trivial
  exact ⟨differ, first.1, later.1⟩

end Store

end Storage

end ModelVault
