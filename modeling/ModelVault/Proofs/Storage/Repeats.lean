import ModelVault.Proofs.Storage.Origins

/-!
Drafts that are put again. A store that still holds what a draft under a number of its own has become
answers the draft as before, and stays as it is.
-/

namespace ModelVault.Storage

private theorem insert_same {Key Value : Type} [Ord Key] [Std.TransOrd Key] [Std.LawfulEqOrd Key]
    {map : Std.ExtTreeMap Key Value} {key : Key} {value : Value} (found : map[key]? = some value) :
    map.insert key value = map := by
  apply Std.ExtTreeMap.ext_getElem?
  intro other
  rw [Std.ExtTreeMap.getElem?_insert]
  split
  · next same => rw [← Std.LawfulEqCmp.eq_of_compare same, found]
  · rfl

theorem VersionRow.Valid.eq_of_stored {row other : VersionRow} (valid : row.Valid) (otherValid : other.Valid)
    (same : row.stored = other.stored) : row = other := by
  obtain ⟨userData, written⟩ := valid.userData
  obtain ⟨otherUserData, otherWritten⟩ := otherValid.userData
  simp only [VersionRow.stored, StoredVersion.mk.injEq, VersionInfo.mk.injEq, written, otherWritten,
    UserData.read?_write, Option.getD_some] at same
  obtain ⟨⟨sameModel, sameNumber, sameTime, sameArchived, sameHash, _, sameUserData⟩, sameData⟩ := same
  have number : row.number = other.number := by rw [valid.number_eq, otherValid.number_eq, sameNumber]
  have size : row.size = other.size := by rw [valid.size, otherValid.size, sameData]
  have time : row.createdAt = other.createdAt := by
    rw [← Moment.nanoseconds_ofNanoseconds row.createdAt, sameTime, Moment.nanoseconds_ofNanoseconds]
  have text : row.userData = other.userData := by rw [written, otherWritten, sameUserData]
  cases row
  cases other
  simp_all

namespace Tables.WellFormed

variable {tables : Tables} {modelId : String}

private theorem updateVersion_same (wellFormed : tables.WellFormed) {number : UInt32} {row : VersionRow}
    (found : tables.versionRow? modelId number = some row) :
    tables.updateVersion modelId number (fun _ => row) = tables := by
  obtain ⟨member, sameModel, sameNumber⟩ := mem_of_versionRow? found
  have unchanged : ∀ other ∈ tables.versions,
      (if other.modelId = modelId ∧ other.number = (number.toNat : Int) then row else other) = other := by
    intro other present
    split
    · next here =>
      refine List.inj_on_of_nodup_map wellFormed.versionKeys member present ?_
      rw [sameModel, sameNumber, here.1, here.2]
    · rfl
  have versions := (List.map_congr_left unchanged).trans (List.map_id' _)
  rw [Tables.updateVersion, versions]

private theorem versionRow?_held (wellFormed : tables.WellFormed) {draft : VersionDraft} (named : draft.number ≠ 0)
    {count : Int} (timely : draft.createdAt.nanoseconds? = some count) {model : StoredModel}
    (found : tables.contents[modelId]? = some model) (stored : model.versions[draft.number]? =
      some ⟨{ draft with createdAt := .ofNanoseconds count }.info modelId draft.number, draft.data⟩) :
    tables.versionRow? modelId draft.number = some (draftRow draft modelId draft.number count draft.data.length) := by
  obtain ⟨owner, _, rfl, rfl⟩ := exists_row tables found
  rw [wellFormed.getElem?_versions] at stored
  obtain ⟨row, listed, same⟩ := Option.map_eq_some_iff.mp stored
  have valid := wellFormed.versions row (mem_of_versionRow? listed).1
  have draftValid := draftRow_valid draft owner.id (one_le_toNat named) (isInt64_of_nanoseconds? timely)
  rw [listed, valid.eq_of_stored draftValid (same.trans (draftRow_stored draft owner.id draft.number count).symm)]

private theorem putVersion_held (wellFormed : tables.WellFormed) {draft : VersionDraft} (named : draft.number ≠ 0)
    {count : Int} (timely : draft.createdAt.nanoseconds? = some count)
    (found : tables.versionRow? modelId draft.number =
      some (draftRow draft modelId draft.number count draft.data.length)) :
    tables.putVersion modelId draft =
      .ok ({ draft with createdAt := .ofNanoseconds count }.info modelId draft.number, tables) := by
  obtain ⟨member, _, _⟩ := mem_of_versionRow? found
  obtain ⟨row, present, owner, bound⟩ := wellFormed.owned _ member
  have latest := (wellFormed.models row present).latest_eq
  have model : tables.contents[modelId]? = some (tables.storedModel row) := by
    have same : row.id = modelId := owner
    rw [← same]
    exact wellFormed.modelId_found present
  have notLater : ¬(tables.storedModel row).latest < draft.number := by
    simp only [draftRow, storedModel, UInt32.lt_iff_toNat_lt] at bound ⊢
    omega
  have column : timeColumn draft.createdAt = .ok count := by rw [timeColumn, timely]
  have exist : (tables.versionRow? modelId draft.number).isSome = true := by rw [found]; rfl
  have same := wellFormed.updateVersion_same found
  simp only [Tables.putVersion, wellFormed.modelInfo?_eq, model, column, sizeColumn_length, assignNumber, bind,
    Except.bind, pure, Except.pure, Option.map_some, Option.isSome_some, Option.getD_some, StoredModel.info, exist,
    ne_eq, named, not_false_eq_true, and_self, decide_true, if_true, same, notLater, if_false]
  rfl

end Tables.WellFormed

namespace Store

variable {store : Store} {modelId : String} {draft : VersionDraft}

theorem kept?_perform (store : Store) (call : Call) : (store.perform call).2.kept? = store.kept? := by
  cases store <;> rfl

theorem kept?_after (store : Store) (events : List Event) : (store.after events).kept? = store.kept? := by
  induction events generalizing store with
  | nil => rfl
  | cons event rest ih =>
    have first : (event.apply store).kept? = store.kept? := by
      cases event with
      | call call => exact kept?_perform store call
      | reopened => cases store <;> rfl
    exact (ih (event.apply store)).trans first

theorem info_of_named (sound : store.Sound) (named : draft.number ≠ 0) {info : VersionInfo}
    (answered : (store.perform (.putVersion modelId draft)).1 = .ok info) :
    ∃ time, store.kept? draft.createdAt = some time ∧
      info = { draft with createdAt := time }.info modelId draft.number := by
  obtain ⟨time, assigned, timely, handedOut, rfl⟩ := putVersion_answered sound answered
  have same : assigned = draft.number := by
    rw [assignNumber] at handedOut
    split at handedOut
    · exact (Except.ok.inj handedOut).symm
    · split at handedOut
      · cases handedOut
      · split at handedOut
        · next next =>
          rw [← Except.ok.inj handedOut]
          exact (next.resolve_left named).symm
        · cases handedOut
  exact ⟨time, timely, by rw [same]⟩

/-- Putting the draft of a version that the store holds already is answered with what is known of the
version, and changes nothing. -/
theorem perform_putVersion_held (sound : store.Sound) (opened : store.isOpen = true) (named : draft.number ≠ 0)
    {time : Moment} (timely : store.kept? draft.createdAt = some time) {info : VersionInfo}
    (described : info = { draft with createdAt := time }.info modelId draft.number)
    (holds : store.Holds modelId draft.number ⟨info, draft.data⟩) :
    store.perform (.putVersion modelId draft) = (.ok info, store) := by
  have latest := ((sound.model modelId).handedOut draft.number (by
    rw [Std.ExtTreeMap.mem_iff_isSome_getElem?, holds_iff.mp holds]
    rfl)).2
  obtain ⟨model, found, stored⟩ := holds
  rw [model_eq found] at latest
  subst described
  cases store with
  | nested store =>
    cases timely
    cases store with
    | destroyed => cases opened
    | live models =>
      have exist : model.versions.contains draft.number = true := by
        rw [Std.ExtTreeMap.contains_eq_isSome_getElem?, stored]
        rfl
      have known : models.getD modelId (.new ∅) = model := model_eq found
      have assigned : assignNumber modelId model.latest draft.number (model.versions.contains draft.number) =
          .ok draft.number := by
        rw [assignNumber, if_pos ⟨named, exist⟩]
      have put : model.putVersion modelId draft = .ok (draft.info modelId draft.number, model) := by
        refine StoredModel.putVersion_eq_ok.mpr ⟨_, assigned, rfl, ?_⟩
        rw [insert_same stored, max_eq_latest latest]
      have same : models.insert modelId model = models := insert_same found
      simp only [Store.perform, NestedStore.perform, NestedStore.putVersion, known, put, same]
      rfl
  | tabular store =>
    obtain ⟨count, counted, rfl⟩ := Option.map_eq_some_iff.mp timely
    have wellFormed : store.tables.WellFormed := sound
    have put := wellFormed.putVersion_held named counted (wellFormed.versionRow?_held named counted found stored)
    have isOpen : store.isOpen = true := opened
    simp only [Store.perform, TableStore.perform, TableStore.transact, isOpen, if_true, put]
    rw [← isOpen]

/-- A draft that names its number is answered alike when it is put again while the version is still there,
and the store stays as it is. -/
theorem perform_putVersion_again (sound : store.Sound) (named : draft.number ≠ 0) {info : VersionInfo}
    (answered : (store.perform (.putVersion modelId draft)).1 = .ok info) {between : List Event}
    (lasting : .call .destroy ∉ between)
    (left : (store.perform (.putVersion modelId draft)).2.LeavesAlone modelId draft.number between) :
    ((store.perform (.putVersion modelId draft)).2.after between).perform (.putVersion modelId draft) =
      (.ok info, (store.perform (.putVersion modelId draft)).2.after between) := by
  have put : Call.putVersion modelId draft ≠ .destroy := nofun
  have opened := isOpen_of_answered (Prod.ext answered rfl) put
  obtain ⟨_, stillSound, stillOpen⟩ := perform_served sound opened put
  obtain ⟨time, timely, described⟩ := info_of_named sound named answered
  have holds := holds_of_put sound answered
  have numbered : info.number = draft.number := by rw [described, VersionDraft.info]
  rw [numbered] at holds
  refine perform_putVersion_held (sound_after stillSound between) (isOpen_after stillOpen stillSound lasting) named
    ?_ described (Holds.after holds stillSound lasting left)
  rw [kept?_after, kept?_perform]
  exact timely

end Store

end ModelVault.Storage
