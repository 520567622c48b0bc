import ModelVault.Proofs.Storage.TableReading

/-!
Changing well-formed tables: each change keeps them well-formed, and the models that the rows hold
change as those of the nested engine do.
-/

namespace ModelVault.Storage.Tables

variable {tables changed : Tables} {modelId : String}

/-! ### Frames -/

/-- The changed tables have the same rows as before for all models but one. -/
structure SameElsewhere (tables changed : Tables) (modelId : String) : Prop where
  models : ∀ other ≠ modelId, changed.modelRow? other = tables.modelRow? other
  versions : ∀ other ≠ modelId,
    changed.versions.filter (·.modelId = other) = tables.versions.filter (·.modelId = other)

private theorem SameElsewhere.getElem?_contents (same : SameElsewhere tables changed modelId)
    {other : String} (different : other ≠ modelId) :
    changed.contents[other]? = tables.contents[other]? := by
  rw [Tables.getElem?_contents, Tables.getElem?_contents, same.models other different]
  cases found : tables.modelRow? other with
  | none => rfl
  | some row =>
    obtain ⟨_, rfl⟩ := mem_of_modelRow? found
    simp only [Option.map_some, storedModel, same.versions row.id different]

theorem SameElsewhere.contents_insert (same : SameElsewhere tables changed modelId) {row : ModelRow}
    (found : changed.modelRow? modelId = some row) :
    changed.contents = tables.contents.insert modelId (changed.storedModel row) := by
  apply Std.ExtTreeMap.ext_getElem?
  intro other
  rw [Std.ExtTreeMap.getElem?_insert]
  by_cases here : modelId = other
  · subst here
    simp [Tables.getElem?_contents, found]
  · simp [here, same.getElem?_contents (Ne.symm here)]

theorem SameElsewhere.contents_erase (same : SameElsewhere tables changed modelId)
    (gone : changed.modelRow? modelId = none) : changed.contents = tables.contents.erase modelId := by
  apply Std.ExtTreeMap.ext_getElem?
  intro other
  rw [Std.ExtTreeMap.getElem?_erase]
  by_cases here : modelId = other
  · subst here
    simp [Tables.getElem?_contents, gone]
  · simp [here, same.getElem?_contents (Ne.symm here)]

/-! ### Rows after a change -/

theorem modelRow?_insertModel (userData : UserData) (other : String) :
    (tables.insertModel modelId userData).modelRow? other =
      (tables.modelRow? other).or (if modelId = other then some ⟨modelId, 0, userData.write⟩ else none) := by
  simp only [insertModel, modelRow?, List.find?_append, List.find?_singleton, decide_eq_true_eq]

theorem modelRow?_updateModel {change : ModelRow → ModelRow} (keepsId : ∀ row, (change row).id = row.id)
    (other : String) :
    (tables.updateModel modelId change).modelRow? other =
      (tables.modelRow? other).map fun row => if row.id = modelId then change row else row := by
  simp only [updateModel, modelRow?, List.find?_map]
  congr 2
  funext row
  simp only [Function.comp_apply]
  split
  · rw [keepsId]
  · rfl

theorem versionRow?_updateVersion {number : UInt32} {row : VersionRow} (sameModel : row.modelId = modelId)
    (sameNumber : row.number = (number.toNat : Int)) (other : String) (wanted : UInt32) :
    (tables.updateVersion modelId number fun _ => row).versionRow? other wanted =
      (tables.versionRow? other wanted).map fun old =>
        if other = modelId ∧ wanted = number then row else old := by
  simp only [updateVersion, versionRow?, List.find?_map]
  have keyKept : ((fun old : VersionRow => decide (old.modelId = other ∧ old.number = (wanted.toNat : Int))) ∘
      fun old => if old.modelId = modelId ∧ old.number = (number.toNat : Int) then row else old) =
      fun old => decide (old.modelId = other ∧ old.number = (wanted.toNat : Int)) := by
    funext old
    simp only [Function.comp_apply]
    split
    · next here => rw [sameModel, sameNumber, here.1, here.2]
    · rfl
  rw [keyKept]
  cases found : tables.versions.find? _ with
  | none => rfl
  | some old =>
    obtain ⟨_, oldModel, oldNumber⟩ := mem_of_versionRow? found
    simp only [Option.map_some, oldModel, oldNumber, Int.natCast_inj, UInt32.toNat_inj]

private theorem filter_updateVersion {number : UInt32} {row : VersionRow} (sameModel : row.modelId = modelId)
    {other : String} (different : other ≠ modelId) (rows : List VersionRow) :
    (rows.map fun old => if old.modelId = modelId ∧ old.number = (number.toNat : Int) then row else old).filter
      (·.modelId = other) = rows.filter (·.modelId = other) := by
  induction rows with
  | nil => rfl
  | cons old rows ih =>
    rw [List.map_cons, List.filter_cons, List.filter_cons, ih]
    by_cases here : old.modelId = modelId ∧ old.number = (number.toNat : Int)
    · simp [here, sameModel, Ne.symm different]
    · simp [here]

namespace WellFormed

/-! ### Models -/

theorem insertModel (wellFormed : tables.WellFormed) (unknown : tables.modelRow? modelId = none)
    (userData : UserData) : (tables.insertModel modelId userData).WellFormed where
  modelKeys := by
    have fresh : modelId ∉ tables.models.map (·.id) := by
      intro present
      obtain ⟨row, member, same⟩ := List.mem_map.mp present
      simpa [same] using List.find?_eq_none.mp unknown row member
    simpa [Tables.insertModel, List.nodup_append, wellFormed.modelKeys] using fresh
  versionKeys := wellFormed.versionKeys
  models := by
    intro row member
    rcases List.mem_append.mp member with old | new
    · exact wellFormed.models row old
    · rw [List.mem_singleton.mp new]
      exact ⟨by simp, userData, rfl⟩
  versions := wellFormed.versions
  owned := by
    intro row member
    obtain ⟨model, present, owner⟩ := wellFormed.owned row member
    exact ⟨model, List.mem_append_left _ present, owner⟩

theorem filter_versions_eq_nil (wellFormed : tables.WellFormed) (unknown : tables.modelRow? modelId = none) :
    tables.versions.filter (·.modelId = modelId) = [] := by
  rw [List.filter_eq_nil_iff]
  intro row member
  obtain ⟨model, present, owner, _⟩ := wellFormed.owned row member
  simpa [owner] using List.find?_eq_none.mp unknown model present

theorem contents_insertModel (wellFormed : tables.WellFormed) (unknown : tables.modelRow? modelId = none)
    (userData : UserData) :
    (tables.insertModel modelId userData).contents = tables.contents.insert modelId (.new userData) := by
  have same : SameElsewhere tables (tables.insertModel modelId userData) modelId := by
    refine ⟨?_, fun _ _ => rfl⟩
    intro other different
    simp [modelRow?_insertModel, Ne.symm different]
  have found : (tables.insertModel modelId userData).modelRow? modelId =
      some ⟨modelId, 0, userData.write⟩ := by
    simp [modelRow?_insertModel, unknown]
  rw [same.contents_insert found]
  congr 1
  simp [storedModel, Tables.insertModel, wellFormed.filter_versions_eq_nil unknown, StoredModel.new, indexed]

theorem updateModel (wellFormed : tables.WellFormed) {change : ModelRow → ModelRow}
    (keepsId : ∀ row, (change row).id = row.id)
    (valid : ∀ row ∈ tables.models, row.id = modelId → (change row).Valid)
    (grows : ∀ row ∈ tables.models, row.id = modelId → row.latest ≤ (change row).latest) :
    (tables.updateModel modelId change).WellFormed where
  modelKeys := by
    have sameIds : (tables.updateModel modelId change).models.map (·.id) = tables.models.map (·.id) := by
      simp only [Tables.updateModel, List.map_map]
      apply List.map_congr_left
      intro row _
      simp only [Function.comp_apply]
      split
      · exact keepsId row
      · rfl
    rw [sameIds]
    exact wellFormed.modelKeys
  versionKeys := wellFormed.versionKeys
  models := by
    intro row member
    obtain ⟨old, present, same⟩ := List.mem_map.mp member
    subst same
    split
    · next here => exact valid old present here
    · exact wellFormed.models old present
  versions := wellFormed.versions
  owned := by
    intro row member
    obtain ⟨old, present, owner, bound⟩ := wellFormed.owned row member
    refine ⟨_, List.mem_map_of_mem present, ?_⟩
    split
    · next here => exact ⟨(keepsId old).trans owner, Int.le_trans bound (grows old present here)⟩
    · exact ⟨owner, bound⟩

theorem contents_updateModel (wellFormed : tables.WellFormed) {change : ModelRow → ModelRow}
    (keepsId : ∀ row, (change row).id = row.id) {row : ModelRow} (member : row ∈ tables.models) :
    (tables.updateModel row.id change).contents =
      tables.contents.insert row.id (tables.storedModel (change row)) := by
  have same : SameElsewhere tables (tables.updateModel row.id change) row.id := by
    refine ⟨?_, fun _ _ => rfl⟩
    intro other different
    rw [modelRow?_updateModel keepsId]
    cases found : tables.modelRow? other with
    | none => rfl
    | some old =>
      obtain ⟨_, rfl⟩ := mem_of_modelRow? found
      simp [different]
  have found : (tables.updateModel row.id change).modelRow? row.id = some (change row) := by
    simp [modelRow?_updateModel keepsId, wellFormed.modelRow?_eq_some member]
  exact same.contents_insert found

/-! ### Versions -/

theorem updateVersion (wellFormed : tables.WellFormed) {number : UInt32} {old row : VersionRow}
    (found : tables.versionRow? modelId number = some old) (sameModel : row.modelId = modelId)
    (sameNumber : row.number = (number.toNat : Int)) (valid : row.Valid) :
    (tables.updateVersion modelId number fun _ => row).WellFormed where
  modelKeys := wellFormed.modelKeys
  versionKeys := by
    have sameKeys : (tables.updateVersion modelId number fun _ => row).versions.map
        (fun row => (row.modelId, row.number)) = tables.versions.map fun row => (row.modelId, row.number) := by
      simp only [Tables.updateVersion, List.map_map]
      apply List.map_congr_left
      intro other _
      simp only [Function.comp_apply]
      split
      · next here => rw [sameModel, sameNumber, here.1, here.2]
      · rfl
    rw [sameKeys]
    exact wellFormed.versionKeys
  models := wellFormed.models
  versions := by
    intro other member
    obtain ⟨before, present, same⟩ := List.mem_map.mp member
    subst same
    split
    · exact valid
    · exact wellFormed.versions before present
  owned := by
    intro other member
    obtain ⟨before, present, same⟩ := List.mem_map.mp member
    subst same
    split
    · obtain ⟨oldMember, oldModel, oldNumber⟩ := mem_of_versionRow? found
      rw [sameModel, sameNumber, ← oldModel, ← oldNumber]
      exact wellFormed.owned old oldMember
    · exact wellFormed.owned before present

theorem appendVersion (wellFormed : tables.WellFormed) {model : ModelRow} {row : VersionRow}
    (present : model ∈ tables.models) (owner : model.id = row.modelId) (bound : row.number ≤ model.latest)
    (valid : row.Valid) (fresh : tables.versionRow? row.modelId row.key = none) :
    ({ tables with versions := tables.versions ++ [row] } : Tables).WellFormed where
  modelKeys := wellFormed.modelKeys
  versionKeys := by
    have newKey : (row.modelId, row.number) ∉ tables.versions.map fun row => (row.modelId, row.number) := by
      intro listed
      obtain ⟨other, member, same⟩ := List.mem_map.mp listed
      have sameModel : other.modelId = row.modelId := congrArg Prod.fst same
      have sameNumber : other.number = row.number := congrArg Prod.snd same
      simpa [sameModel, sameNumber, ← valid.number_eq] using List.find?_eq_none.mp fresh other member
    simpa [List.nodup_append, wellFormed.versionKeys] using newKey
  models := wellFormed.models
  versions := by
    intro other member
    rcases List.mem_append.mp member with old | new
    · exact wellFormed.versions other old
    · rw [List.mem_singleton.mp new]
      exact valid
  owned := by
    intro other member
    rcases List.mem_append.mp member with old | new
    · exact wellFormed.owned other old
    · rw [List.mem_singleton.mp new]
      exact ⟨model, present, owner, bound⟩

private theorem contents_versions (before : Tables) (wellFormed : changed.WellFormed)
    (sameModels : changed.models = before.models) {model : ModelRow} (member : model ∈ before.models)
    (sameVersions : ∀ other ≠ model.id,
      changed.versions.filter (·.modelId = other) = before.versions.filter (·.modelId = other))
    {versions : Std.ExtTreeMap UInt32 StoredVersion}
    (listed : ∀ number, (changed.versionRow? model.id number).map VersionRow.stored = versions[number]?) :
    changed.contents =
      before.contents.insert model.id { before.storedModel model with versions := versions } := by
  have same : SameElsewhere before changed model.id :=
    ⟨fun _ _ => by simp [modelRow?, sameModels], sameVersions⟩
  rw [← sameModels] at member
  rw [same.contents_insert (wellFormed.modelRow?_eq_some member)]
  have sameMap : (changed.storedModel model).versions = versions := by
    apply Std.ExtTreeMap.ext_getElem?
    intro number
    rw [wellFormed.getElem?_versions, listed]
  rw [← sameMap]
  rfl

theorem contents_updateVersion (wellFormed : tables.WellFormed) {model : ModelRow}
    (member : model ∈ tables.models) {old row : VersionRow}
    (found : tables.versionRow? model.id row.key = some old) (sameModel : row.modelId = model.id)
    (valid : row.Valid) :
    (tables.updateVersion model.id row.key fun _ => row).contents = tables.contents.insert model.id
      { tables.storedModel model with
        versions := (tables.storedModel model).versions.insert row.key row.stored } := by
  apply contents_versions tables (wellFormed.updateVersion found sameModel valid.number_eq valid) rfl member
  · intro other different
    exact filter_updateVersion sameModel different tables.versions
  · intro number
    rw [versionRow?_updateVersion sameModel valid.number_eq, Std.ExtTreeMap.getElem?_insert,
      wellFormed.getElem?_versions]
    by_cases here : row.key = number
    · subst here
      simp [found]
    · simp [here, Ne.symm here]

theorem contents_appendVersion (wellFormed : tables.WellFormed) {model : ModelRow} {row : VersionRow}
    (member : model ∈ tables.models) (owner : model.id = row.modelId) (bound : row.number ≤ model.latest)
    (valid : row.Valid) (fresh : tables.versionRow? row.modelId row.key = none) :
    ({ tables with versions := tables.versions ++ [row] } : Tables).contents =
      tables.contents.insert model.id { tables.storedModel model with
        versions := (tables.storedModel model).versions.insert row.key row.stored } := by
  apply contents_versions tables (wellFormed.appendVersion member owner bound valid fresh) rfl member
  · intro other different
    simp [List.filter_append, ← owner, Ne.symm different]
  · intro number
    have searched : ({ tables with versions := tables.versions ++ [row] } : Tables).versionRow? model.id number =
        (tables.versionRow? model.id number).or (if row.key = number then some row else none) := by
      simp only [versionRow?, List.find?_append, List.find?_singleton, decide_eq_true_eq, owner, true_and,
        valid.key_eq_iff]
    rw [searched, Std.ExtTreeMap.getElem?_insert, wellFormed.getElem?_versions]
    by_cases here : row.key = number
    · subst here
      simp [owner, fresh]
    · simp [here]

/-! ### Deletions -/

private theorem find?_filter_of_imp {Row : Type} {kept wanted : Row → Bool}
    (spared : ∀ row, wanted row = true → kept row = true) (rows : List Row) :
    (rows.filter kept).find? wanted = rows.find? wanted := by
  rw [List.find?_filter]
  apply List.find?_congr
  intro row _
  cases asked : wanted row with
  | true => simp [spared row asked]
  | false => simp

private theorem filter_filter_of_imp {Row : Type} {kept wanted : Row → Bool}
    (spared : ∀ row, wanted row = true → kept row = true) (rows : List Row) :
    (rows.filter kept).filter wanted = rows.filter wanted := by
  rw [List.filter_filter]
  apply List.filter_congr
  intro row _
  cases asked : wanted row with
  | true => simp [spared row asked]
  | false => simp

theorem deleteVersion (wellFormed : tables.WellFormed) (number : UInt32) :
    ({ tables with versions := tables.versions.filter fun row =>
      ¬(row.modelId = modelId ∧ row.number = (number.toNat : Int)) } : Tables).WellFormed where
  modelKeys := wellFormed.modelKeys
  versionKeys := (List.filter_sublist.map _).nodup wellFormed.versionKeys
  models := wellFormed.models
  versions row member := wellFormed.versions row (List.mem_of_mem_filter member)
  owned row member := wellFormed.owned row (List.mem_of_mem_filter member)

theorem contents_deleteVersion (wellFormed : tables.WellFormed) {model : ModelRow}
    (member : model ∈ tables.models) (number : UInt32) :
    ({ tables with versions := tables.versions.filter fun row =>
      ¬(row.modelId = model.id ∧ row.number = (number.toNat : Int)) } : Tables).contents =
      tables.contents.insert model.id { tables.storedModel model with
        versions := (tables.storedModel model).versions.erase number } := by
  apply contents_versions tables (wellFormed.deleteVersion number) rfl member
  · intro other different
    apply filter_filter_of_imp
    intro row owner
    simp [of_decide_eq_true owner, different]
  · intro wanted
    rw [Std.ExtTreeMap.getElem?_erase, wellFormed.getElem?_versions, versionRow?, versionRow?]
    by_cases here : number = wanted
    · subst here
      rw [if_pos Std.ReflCmp.compare_self, Option.map_eq_none_iff, List.find?_filter, List.find?_eq_none]
      intro row _
      simp only [decide_eq_true_eq]
      exact fun both => both.1 both.2
    · have different : (wanted.toNat : Int) ≠ number.toNat := by
        rw [Ne, Int.natCast_inj, UInt32.toNat_inj]
        exact Ne.symm here
      rw [if_neg (by simpa using here), find?_filter_of_imp]
      intro row same
      simp [of_decide_eq_true same, different]

theorem deleteModel (wellFormed : tables.WellFormed) (modelId : String) :
    ({ models := tables.models.filter (·.id ≠ modelId)
       versions := tables.versions.filter (·.modelId ≠ modelId) } : Tables).WellFormed where
  modelKeys := (List.filter_sublist.map _).nodup wellFormed.modelKeys
  versionKeys := (List.filter_sublist.map _).nodup wellFormed.versionKeys
  models row member := wellFormed.models row (List.mem_of_mem_filter member)
  versions row member := wellFormed.versions row (List.mem_of_mem_filter member)
  owned := by
    intro row member
    obtain ⟨present, elsewhere⟩ := List.mem_filter.mp member
    obtain ⟨model, modelPresent, owner, bound⟩ := wellFormed.owned row present
    refine ⟨model, List.mem_filter.mpr ⟨modelPresent, ?_⟩, owner, bound⟩
    rw [owner]
    exact elsewhere

theorem contents_deleteModel (modelId : String) :
    ({ models := tables.models.filter (·.id ≠ modelId)
       versions := tables.versions.filter (·.modelId ≠ modelId) } : Tables).contents =
      tables.contents.erase modelId := by
  apply SameElsewhere.contents_erase
  · constructor
    · intro other different
      apply find?_filter_of_imp
      intro row owner
      simp [of_decide_eq_true owner, different]
    · intro other different
      apply filter_filter_of_imp
      intro row owner
      simp [of_decide_eq_true owner, different]
  · simp only [modelRow?, List.find?_filter, List.find?_eq_none]
    intro row _
    simp

end WellFormed

end ModelVault.Storage.Tables
