import ModelVault.Proofs.Storage.Models
import ModelVault.Proofs.Storage.TableWriting

/-!
The calls that change well-formed tables, in terms of the models that the rows hold: each does to them
what the nested engine does to its own, but for times, which a row keeps in whole nanoseconds.
-/

namespace ModelVault.Storage.Tables

variable {tables : Tables}

namespace WellFormed

theorem exists_row (tables : Tables) {modelId : String} {model : StoredModel}
    (found : tables.contents[modelId]? = some model) :
    ∃ row ∈ tables.models, row.id = modelId ∧ tables.storedModel row = model := by
  rw [getElem?_contents, Option.map_eq_some_iff] at found
  obtain ⟨row, rowFound, same⟩ := found
  obtain ⟨member, id⟩ := mem_of_modelRow? rowFound
  exact ⟨row, member, id, same⟩

theorem modelId_found (wellFormed : tables.WellFormed) {row : ModelRow} (member : row ∈ tables.models) :
    tables.contents[row.id]? = some (tables.storedModel row) := by
  rw [getElem?_contents, wellFormed.modelRow?_eq_some member, Option.map_some]

private theorem modelRow?_eq_none {modelId : String} (unknown : tables.contents[modelId]? = none) :
    tables.modelRow? modelId = none := by
  rwa [getElem?_contents, Option.map_eq_none_iff] at unknown

theorem putModel_eq (wellFormed : tables.WellFormed) (modelId : String) (userData : UserData)
    {model : StoredModel}
    (changedModel : model = { tables.contents.getD modelId (.new ∅) with userData := userData }) :
    ∃ changed, tables.putModel modelId userData = .ok (model.info modelId, changed) ∧
      changed.WellFormed ∧ changed.contents = tables.contents.insert modelId model := by
  subst changedModel
  rw [putModel, wellFormed.modelInfo?_eq, Std.ExtTreeMap.getD_eq_getD_getElem?]
  cases known : tables.contents[modelId]? with
  | none =>
    have unknown := modelRow?_eq_none known
    exact ⟨_, rfl, wellFormed.insertModel unknown userData, wellFormed.contents_insertModel unknown userData⟩
  | some model =>
    obtain ⟨row, member, rfl, rfl⟩ := exists_row tables known
    refine ⟨_, rfl, ?_, ?_⟩
    · apply wellFormed.updateModel
      · exact fun _ => rfl
      · exact fun other present _ => ⟨(wellFormed.models other present).latest, userData, rfl⟩
      · exact fun _ _ _ => Int.le_refl _
    · refine (wellFormed.contents_updateModel ?_ member).trans ?_
      · exact fun _ => rfl
      · simp [storedModel]

theorem deleteModel_eq (wellFormed : tables.WellFormed) {modelId : String} {model : StoredModel}
    (known : tables.contents[modelId]? = some model) :
    ∃ changed, tables.deleteModel modelId = .ok ((), changed) ∧ changed.WellFormed ∧
      changed.contents = tables.contents.erase modelId := by
  rw [Tables.deleteModel, wellFormed.modelInfo_eq, NestedStore.model, known]
  exact ⟨_, rfl, wellFormed.deleteModel modelId, contents_deleteModel modelId⟩

theorem deleteModel_unknown (wellFormed : tables.WellFormed) {modelId : String}
    (unknown : tables.contents[modelId]? = none) :
    tables.deleteModel modelId = .error (.unknownModel modelId) := by
  rw [Tables.deleteModel, wellFormed.modelInfo_eq, NestedStore.model, unknown]
  rfl

/-! ### Putting a version -/

/-- What putting a version does once the model has a row and the version a number. -/
private def place (tables : Tables) (modelId : String) (exist : Bool) (latest number : UInt32)
    (row : VersionRow) : Except StoreError Tables := do
  let tables ← if exist then pure (tables.updateVersion modelId number fun _ => row)
    else tables.insertVersion row
  return if latest < number then tables.updateModel modelId ({ · with latest := number.toNat }) else tables

theorem isInt64_of_nanoseconds? {time : Moment} {count : Int} (timely : time.nanoseconds? = some count) :
    IsInt64 count := by
  obtain ⟨inside, rfl⟩ := Moment.nanoseconds?_eq_some.mp timely
  exact inside

/-- A draft's row is one that the engine writes, if the draft has a number and its time a count. -/
theorem draftRow_valid (draft : VersionDraft) (modelId : String) {number : UInt32} {count : Int}
    (positive : 1 ≤ number.toNat) (counted : IsInt64 count) :
    (draftRow draft modelId number count draft.data.length).Valid where
  number := by
    have bound := number.toNat_lt
    simp only [draftRow, toNat_maxVersionNumber]
    omega
  createdAt := counted
  size := rfl
  userData := ⟨draft.userData, rfl⟩

private theorem draftRow_key (draft : VersionDraft) (modelId : String) (number : UInt32) (count : Int) :
    (draftRow draft modelId number count draft.data.length).key = number := by
  simp only [VersionRow.key, draftRow, Int.toNat_natCast, UInt32.ofNat_toNat]

theorem draftRow_stored (draft : VersionDraft) (modelId : String) (number : UInt32) (count : Int) :
    (draftRow draft modelId number count draft.data.length).stored =
      ⟨{ draft with createdAt := .ofNanoseconds count }.info modelId number, draft.data⟩ := by
  have key := draftRow_key draft modelId number count
  simp [VersionRow.stored, key]
  simp [draftRow, VersionDraft.info]

private theorem prepared (wellFormed : tables.WellFormed) (modelId : String) :
    ∃ ready row, (if tables.contents[modelId]?.isSome then tables else tables.insertModel modelId ∅) = ready ∧
      ready.WellFormed ∧ row ∈ ready.models ∧ row.id = modelId ∧
      ready.storedModel row = tables.contents.getD modelId (.new ∅) ∧
      ∀ model, ready.contents.insert modelId model = tables.contents.insert modelId model := by
  rw [Std.ExtTreeMap.getD_eq_getD_getElem?]
  cases known : tables.contents[modelId]? with
  | some model =>
    obtain ⟨row, member, id, same⟩ := exists_row tables known
    exact ⟨tables, row, rfl, wellFormed, member, id, same, fun _ => rfl⟩
  | none =>
    have unknown := modelRow?_eq_none known
    have changed := wellFormed.contents_insertModel unknown ∅
    have found : (tables.insertModel modelId ∅).contents[modelId]? = some (.new ∅) := by
      rw [changed, Std.ExtTreeMap.getElem?_insert_self]
    obtain ⟨row, member, id, same⟩ := exists_row _ found
    refine ⟨_, row, rfl, wellFormed.insertModel unknown ∅, member, id, same, ?_⟩
    intro model
    change (tables.insertModel modelId ∅).contents.insert modelId model = _
    rw [changed]
    apply Std.ExtTreeMap.ext_getElem?
    intro other
    simp only [Std.ExtTreeMap.getElem?_insert]
    split <;> rfl

section Place

variable {model : ModelRow} {row : VersionRow}

private theorem place_existing (wellFormed : tables.WellFormed) (member : model ∈ tables.models)
    (sameModel : row.modelId = model.id) (valid : row.Valid) {old : VersionRow}
    (found : tables.versionRow? model.id row.key = some old) :
    ∃ changed, place tables model.id true (tables.storedModel model).latest row.key row = .ok changed ∧
      changed.WellFormed ∧
      changed.contents = tables.contents.insert model.id { tables.storedModel model with
        versions := (tables.storedModel model).versions.insert row.key row.stored
        latest := max (tables.storedModel model).latest row.key } := by
  have sound := wellFormed.sound (modelId_found wellFormed member)
  have present : row.key ∈ (tables.storedModel model).versions := by
    simp [Std.ExtTreeMap.mem_iff_isSome_getElem?, wellFormed.getElem?_versions, found]
  have bound := (sound.handedOut row.key present).2
  refine ⟨_, ?_, wellFormed.updateVersion found sameModel valid.number_eq valid, ?_⟩
  · simp [place, UInt32.lt_iff_toNat_lt, Nat.not_lt.mpr bound]
    rfl
  · rw [wellFormed.contents_updateVersion member found sameModel valid, max_eq_latest bound]

private theorem place_new (wellFormed : tables.WellFormed) (member : model ∈ tables.models)
    (sameModel : row.modelId = model.id) (valid : row.Valid)
    (next : row.key.toNat = (tables.storedModel model).latest.toNat + 1) :
    ∃ changed, place tables model.id false (tables.storedModel model).latest row.key row = .ok changed ∧
      changed.WellFormed ∧
      changed.contents = tables.contents.insert model.id { tables.storedModel model with
        versions := (tables.storedModel model).versions.insert row.key row.stored
        latest := max (tables.storedModel model).latest row.key } := by
  have sound := wellFormed.sound (modelId_found wellFormed member)
  have latest := (wellFormed.models model member).latest_eq
  have number := valid.number_eq
  simp only [storedModel] at next
  have fresh : tables.versionRow? row.modelId row.key = none := by
    cases found : tables.versionRow? model.id row.key with
    | none => rw [sameModel, found]
    | some old =>
      have present : row.key ∈ (tables.storedModel model).versions := by
        simp [Std.ExtTreeMap.mem_iff_isSome_getElem?, wellFormed.getElem?_versions, found]
      have bound := (sound.handedOut row.key present).2
      simp only [storedModel] at bound
      omega
  have inserted : tables.insertVersion row = .ok { tables with versions := tables.versions ++ [row] } := by
    apply if_neg
    intro taken
    obtain ⟨other, otherMember, same⟩ := List.any_eq_true.mp taken
    simp only [decide_eq_true_eq, number] at same
    simpa [same] using List.find?_eq_none.mp fresh other otherMember
  -- The order of the two changes does not matter, so the model's row is taken to be changed first.
  let grown : ModelRow := { model with latest := row.key.toNat }
  let raised := tables.updateModel model.id ({ · with latest := row.key.toNat })
  have raisedFormed : raised.WellFormed := by
    apply wellFormed.updateModel
    · exact fun _ => rfl
    · intro other otherMember _
      refine ⟨?_, (wellFormed.models other otherMember).userData⟩
      have bound := row.key.toNat_lt
      simp only [toNat_maxVersionNumber]
      omega
    · intro other otherMember here
      have sameRow : other = model := List.inj_on_of_nodup_map wellFormed.modelKeys otherMember member here
      rw [sameRow]
      change model.latest ≤ (row.key.toNat : Int)
      omega
  have grownMember : grown ∈ raised.models := by
    refine List.mem_map.mpr ⟨model, member, ?_⟩
    simp [grown]
  have raisedContents : raised.contents = tables.contents.insert model.id (tables.storedModel grown) := by
    refine (wellFormed.contents_updateModel ?_ member).trans rfl
    exact fun _ => rfl
  refine ⟨{ raised with versions := raised.versions ++ [row] }, ?_, ?_, ?_⟩
  · have later : (tables.storedModel model).latest < row.key := by
      rw [UInt32.lt_iff_toNat_lt]
      simp only [storedModel]
      omega
    rw [place, inserted]
    simp only [later, if_true]
    rfl
  · exact raisedFormed.appendVersion grownMember sameModel.symm (Int.le_of_eq number) valid fresh
  · rw [raisedFormed.contents_appendVersion grownMember sameModel.symm (Int.le_of_eq number) valid fresh,
      raisedContents]
    apply Std.ExtTreeMap.ext_getElem?
    intro other
    rw [Std.ExtTreeMap.getElem?_insert, Std.ExtTreeMap.getElem?_insert, Std.ExtTreeMap.getElem?_insert]
    split
    · rw [max_eq_number (by simp only [storedModel]; omega)]
      simp [storedModel, grown, raised, Tables.updateModel]
    · rfl

end Place

/-- Putting a version is getting a row for its model, then a number, then a time that a row can keep, and
then its place. -/
private theorem putVersion_eq (wellFormed : tables.WellFormed) (modelId : String) (draft : VersionDraft) :
    ∃ ready row, ready.WellFormed ∧ row ∈ ready.models ∧ row.id = modelId ∧
      ready.storedModel row = tables.contents.getD modelId (.new ∅) ∧
      (∀ model, ready.contents.insert modelId model = tables.contents.insert modelId model) ∧
      tables.putVersion modelId draft =
        (assignNumber modelId (ready.storedModel row).latest draft.number
          ((ready.storedModel row).versions.contains draft.number)).bind fun number =>
        (timeColumn draft.createdAt).bind fun count =>
        (place ready modelId (decide (draft.number ≠ 0 ∧ (ready.storedModel row).versions.contains draft.number))
          (ready.storedModel row).latest number (draftRow draft modelId number count draft.data.length)).map
            fun changed => ({ draft with createdAt := .ofNanoseconds count }.info modelId number, changed) := by
  obtain ⟨ready, row, same, readyFormed, member, rfl, model, inserted⟩ := wellFormed.prepared modelId
  refine ⟨ready, row, readyFormed, member, rfl, model, inserted, ?_⟩
  have latest : ((tables.contents[row.id]?.map (·.info row.id)).map (·.latest)).getD 0 =
      (ready.storedModel row).latest := by
    rw [model, Std.ExtTreeMap.getD_eq_getD_getElem?]
    cases tables.contents[row.id]? with
    | none => rfl
    | some model => rfl
  have exist : (ready.versionRow? row.id draft.number).isSome =
      (ready.storedModel row).versions.contains draft.number := by
    rw [Std.ExtTreeMap.contains_eq_isSome_getElem?, readyFormed.getElem?_versions, Option.isSome_map]
  rw [← assignNumber_guard, ← exist, putVersion, wellFormed.modelInfo?_eq]
  simp only [bind, Except.bind, latest, Option.isSome_map, same, place]
  cases assignNumber row.id (ready.storedModel row).latest draft.number
      (decide (draft.number ≠ 0 ∧ (ready.versionRow? row.id draft.number).isSome = true)) with
  | error refusal => rfl
  | ok number =>
    cases timeColumn draft.createdAt with
    | error refusal => rfl
    | ok count =>
      dsimp only
      rw [sizeColumn_length]
      by_cases replaced : draft.number ≠ 0 ∧ (ready.versionRow? row.id draft.number).isSome = true
      · dsimp only
        rw [if_pos replaced, if_pos (decide_eq_true replaced)]
        rfl
      · simp only [replaced, decide_false, Bool.false_eq_true, if_false]
        cases ready.insertVersion (draftRow draft row.id number count draft.data.length) with
        | error refusal => rfl
        | ok changed => rfl

section PutVersion

variable {modelId : String} {draft : VersionDraft}

theorem putVersion_refused (wellFormed : tables.WellFormed) {refusal : StoreError}
    (refused : (tables.contents.getD modelId (.new ∅)).putVersion modelId draft = .error refusal) :
    tables.putVersion modelId draft = .error refusal := by
  obtain ⟨ready, row, _, _, _, model, _, result⟩ := wellFormed.putVersion_eq modelId draft
  rw [result, model, StoredModel.putVersion_eq_error.mp refused]
  rfl

/-- A time that no row can keep is refused, although the nested engine keeps it. -/
theorem putVersion_untimely (wellFormed : tables.WellFormed) {stored : VersionInfo × StoredModel}
    (accepted : (tables.contents.getD modelId (.new ∅)).putVersion modelId draft = .ok stored)
    (untimely : draft.createdAt.nanoseconds? = none) :
    tables.putVersion modelId draft = .error (.fault (.timeOutOfRange draft.createdAt)) := by
  obtain ⟨ready, row, _, _, _, model, _, result⟩ := wellFormed.putVersion_eq modelId draft
  obtain ⟨number, assigned, _⟩ := StoredModel.putVersion_eq_ok.mp accepted
  rw [result, model, assigned, timeColumn, untimely]
  rfl

/-- What the nested engine stores of a draft whose time is whole nanoseconds, the tables store, too. -/
theorem putVersion_stored (wellFormed : tables.WellFormed) {count : Int} {info : VersionInfo}
    {model : StoredModel} (timely : draft.createdAt.nanoseconds? = some count)
    (stored : (tables.contents.getD modelId (.new ∅)).putVersion modelId
      { draft with createdAt := .ofNanoseconds count } = .ok (info, model)) :
    ∃ changed, tables.putVersion modelId draft = .ok (info, changed) ∧ changed.WellFormed ∧
      changed.contents = tables.contents.insert modelId model := by
  obtain ⟨ready, row, readyFormed, member, rfl, before, inserted, result⟩ :=
    wellFormed.putVersion_eq modelId draft
  rw [← before] at stored
  obtain ⟨number, assigned, rfl, rfl⟩ := StoredModel.putVersion_eq_ok.mp stored
  have counted : timeColumn draft.createdAt = .ok count := by rw [timeColumn, timely]
  have placed : ∃ changed, place ready row.id
      (decide (draft.number ≠ 0 ∧ (ready.storedModel row).versions.contains draft.number))
        (ready.storedModel row).latest number (draftRow draft row.id number count draft.data.length) = .ok changed ∧
      changed.WellFormed ∧ changed.contents = ready.contents.insert row.id
        { ready.storedModel row with
          versions := (ready.storedModel row).versions.insert number
            (draftRow draft row.id number count draft.data.length).stored
          latest := max (ready.storedModel row).latest number } := by
    have key := draftRow_key draft row.id
    have owner : ∀ number, (draftRow draft row.id number count draft.data.length).modelId = row.id := fun _ => rfl
    have counts := isInt64_of_nanoseconds? timely
    rcases assignNumber_cases assigned with ⟨positive, exist, rfl⟩ | ⟨new, more, rfl⟩
    · rw [Std.ExtTreeMap.contains_eq_isSome_getElem?, readyFormed.getElem?_versions, Option.isSome_map,
        Option.isSome_iff_exists] at exist
      obtain ⟨old, found⟩ := exist
      have valid := draftRow_valid draft row.id (one_le_toNat positive) counts
      rw [← key draft.number count] at found
      have placed := place_existing readyFormed member (owner draft.number) valid found
      rw [key] at placed
      have replaced : draft.number ≠ 0 ∧ (ready.storedModel row).versions.contains draft.number = true := by
        rw [key] at found
        simp [positive, Std.ExtTreeMap.mem_iff_isSome_getElem?, readyFormed.getElem?_versions, found]
      rwa [decide_eq_true replaced]
    · have next := toNat_add_one more
      have positive : 1 ≤ ((ready.storedModel row).latest + 1).toNat := by omega
      have valid := draftRow_valid draft row.id positive counts
      have placed := place_new readyFormed member (owner _) valid (by rw [key, next])
      rw [key] at placed
      rwa [decide_eq_false new]
  obtain ⟨changed, done, changedFormed, contents⟩ := placed
  refine ⟨changed, ?_, changedFormed, ?_⟩
  · rw [result]
    dsimp only at assigned
    rw [assigned, Except.bind, counted, Except.bind, done]
    rfl
  · rw [contents, inserted, draftRow_stored]

end PutVersion

/-! ### Finding and deleting a version -/

theorem resolvedRow_cases (wellFormed : tables.WellFormed) (modelId : String) (number : UInt32) :
    (∃ refusal, tables.resolvedRow modelId number = .error refusal ∧
      ((NestedStore.live tables.contents).model modelId >>= (·.version modelId number)) = .error refusal) ∨
    ∃ row ∈ tables.versions, tables.resolvedRow modelId number = .ok row ∧
      ((NestedStore.live tables.contents).model modelId >>= (·.version modelId number)) = .ok row.stored := by
  rcases wellFormed.resolve_cases modelId number with ⟨refusal, refused, same⟩ | ⟨row, resolved, found, same⟩
  · refine .inl ⟨refusal, ?_, same⟩
    rw [resolvedRow, refused]
    rfl
  · refine .inr ⟨row, (mem_of_versionRow? found).1, ?_, same⟩
    rw [resolvedRow, resolved]
    simp only [bind, Except.bind, found]
    rfl

theorem versionInfo_eq (wellFormed : tables.WellFormed) (modelId : String) (number : UInt32) :
    (tables.resolvedRow modelId number >>= VersionRow.info) =
      ((NestedStore.live tables.contents).model modelId >>= (·.version modelId number)).map (·.info) := by
  rcases wellFormed.resolvedRow_cases modelId number with ⟨_, refused, same⟩ | ⟨row, member, found, same⟩
  · rw [refused, same]
    rfl
  · rw [found, same]
    exact (wellFormed.versions row member).info_eq

theorem versionData_eq (wellFormed : tables.WellFormed) (modelId : String) (number : UInt32) :
    (tables.resolvedRow modelId number).map (·.data) =
      ((NestedStore.live tables.contents).model modelId >>= (·.version modelId number)).map (·.data) := by
  rcases wellFormed.resolvedRow_cases modelId number with ⟨_, refused, same⟩ | ⟨row, member, found, same⟩
  · rw [refused, same]
    rfl
  · rw [found, same]
    rfl

theorem deleteVersion_refused (wellFormed : tables.WellFormed) {modelId : String} {number : UInt32}
    {refusal : StoreError}
    (refused : ((NestedStore.live tables.contents).model modelId >>= (·.version modelId number)) = .error refusal) :
    tables.deleteVersion modelId number = .error refusal := by
  rcases wellFormed.resolve_cases modelId number with ⟨other, unresolved, same⟩ | ⟨row, _, _, same⟩
  · rw [refused] at same
    rw [Tables.deleteVersion, unresolved, Except.error.inj same]
    rfl
  · rw [refused] at same
    cases same

theorem deleteVersion_found (wellFormed : tables.WellFormed) {modelId : String} {number : UInt32}
    {model : StoredModel} {version : StoredVersion} (known : tables.contents[modelId]? = some model)
    (found : model.version modelId number = .ok version) :
    ∃ changed, tables.deleteVersion modelId number = .ok ((), changed) ∧ changed.WellFormed ∧
      changed.contents = tables.contents.insert modelId
        { model with versions := model.versions.erase version.info.number } := by
  have asked : ((NestedStore.live tables.contents).model modelId >>= (·.version modelId number)) = .ok version := by
    rw [NestedStore.model, known]
    exact found
  rcases wellFormed.resolve_cases modelId number with ⟨_, _, same⟩ | ⟨row, resolved, _, same⟩
  · rw [asked] at same
    cases same
  · rw [asked] at same
    obtain ⟨modelRow, member, rfl, rfl⟩ := exists_row tables known
    have done : tables.deleteVersion modelRow.id number = .ok ((), { tables with
        versions := tables.versions.filter fun stored =>
          ¬(stored.modelId = modelRow.id ∧ stored.number = (row.key.toNat : Int)) }) := by
      rw [Tables.deleteVersion, resolved]
      rfl
    refine ⟨_, done, wellFormed.deleteVersion row.key, ?_⟩
    rw [Except.ok.inj same]
    exact wellFormed.contents_deleteVersion member row.key

end WellFormed

end ModelVault.Storage.Tables
