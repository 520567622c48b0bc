import ModelVault.Proofs.Storage.Models
import Mathlib.Data.List.Find
import Mathlib.Data.List.Nodup

/-!
Reading well-formed tables: each question gets the answer that the nested engine gives from the
models that the rows hold.
-/

namespace ModelVault.Storage

theorem VersionRow.Valid.key_eq_iff {row : VersionRow} (valid : row.Valid) (number : UInt32) :
    row.key = number ↔ row.number = (number.toNat : Int) := by
  rw [valid.number_eq, Int.natCast_inj, UInt32.toNat_inj]

namespace Tables

variable {tables : Tables}

theorem mem_of_modelRow? {modelId : String} {row : ModelRow} (found : tables.modelRow? modelId = some row) :
    row ∈ tables.models ∧ row.id = modelId :=
  ⟨List.mem_of_find?_eq_some found, by simpa using List.find?_some found⟩

theorem mem_of_versionRow? {modelId : String} {number : UInt32} {row : VersionRow}
    (found : tables.versionRow? modelId number = some row) :
    row ∈ tables.versions ∧ row.modelId = modelId ∧ row.number = (number.toNat : Int) :=
  ⟨List.mem_of_find?_eq_some found, by simpa using List.find?_some found⟩

namespace WellFormed

/-- The versions of a model's row are those that the other table has under its identifier. -/
theorem getElem?_versions (wellFormed : tables.WellFormed) (row : ModelRow) (number : UInt32) :
    (tables.storedModel row).versions[number]? =
      (tables.versionRow? row.id number).map VersionRow.stored := by
  rw [storedModel, getElem?_indexed, List.find?_filter, versionRow?]
  congr 1
  apply List.find?_congr
  intro version member
  have valid := wellFormed.versions version member
  simp [valid.key_eq_iff]

theorem modelInfo?_eq (wellFormed : tables.WellFormed) (modelId : String) :
    tables.modelInfo? modelId = .ok (tables.contents[modelId]?.map (·.info modelId)) := by
  rw [modelInfo?, getElem?_contents]
  cases found : tables.modelRow? modelId with
  | none => rfl
  | some row =>
    obtain ⟨member, same⟩ := mem_of_modelRow? found
    have valid := wellFormed.models row member
    simp only [valid.info_eq tables, same]
    rfl

theorem modelInfo_eq (wellFormed : tables.WellFormed) (modelId : String) :
    tables.modelInfo modelId =
      ((NestedStore.live tables.contents).model modelId).map (·.info modelId) := by
  rw [modelInfo, wellFormed.modelInfo?_eq, NestedStore.model]
  cases tables.contents[modelId]? with
  | none => rfl
  | some model => rfl

theorem modelRow?_eq_some (wellFormed : tables.WellFormed) {row : ModelRow} (member : row ∈ tables.models) :
    tables.modelRow? row.id = some row := by
  cases found : tables.modelRow? row.id with
  | none => simpa using List.find?_eq_none.mp found row member
  | some other =>
    obtain ⟨otherMember, same⟩ := mem_of_modelRow? found
    rw [List.inj_on_of_nodup_map wellFormed.modelKeys otherMember member same]

theorem versionRow?_eq_some (wellFormed : tables.WellFormed) {row : VersionRow}
    (member : row ∈ tables.versions) : tables.versionRow? row.modelId row.key = some row := by
  have number := (wellFormed.versions row member).number_eq
  cases found : tables.versionRow? row.modelId row.key with
  | none => simpa [← number] using List.find?_eq_none.mp found row member
  | some other =>
    obtain ⟨otherMember, sameModel, sameNumber⟩ := mem_of_versionRow? found
    rw [List.inj_on_of_nodup_map wellFormed.versionKeys otherMember member]
    simp only [sameModel, sameNumber, ← number]

/-- The highest number of a model is that of a row, and no other row of the model exceeds it. -/
private theorem highest?_eq_some (wellFormed : tables.WellFormed) {modelId : String} {highest : Int}
    (found : tables.highest? modelId = some highest) :
    ∃ row, tables.versionRow? modelId row.key = some row ∧ highest = (row.key.toNat : Int) ∧
      ∀ number other, tables.versionRow? modelId number = some other → number ≤ row.key := by
  rw [highest?, List.max?_eq_some_iff] at found
  obtain ⟨listed, greatest⟩ := found
  obtain ⟨row, kept, number⟩ := List.mem_map.mp listed
  simp only [List.mem_filter, decide_eq_true_eq] at kept
  obtain ⟨member, rfl⟩ := kept
  have valid := wellFormed.versions row member
  refine ⟨row, wellFormed.versionRow?_eq_some member, ?_, ?_⟩
  · rw [← number, valid.number_eq]
  · intro other otherRow otherFound
    obtain ⟨otherMember, sameModel, otherNumber⟩ := mem_of_versionRow? otherFound
    have bound := greatest otherRow.number (List.mem_map_of_mem (List.mem_filter.mpr
      ⟨otherMember, by simpa using sameModel⟩))
    rw [otherNumber, ← number, valid.number_eq, Int.ofNat_le] at bound
    exact UInt32.le_iff_toNat_le.mpr bound

private theorem versions_eq_empty (wellFormed : tables.WellFormed) {row : ModelRow}
    (nothing : tables.highest? row.id = none) : (tables.storedModel row).versions = ∅ := by
  apply Std.ExtTreeMap.ext_getElem?
  intro number
  rw [wellFormed.getElem?_versions, Std.ExtTreeMap.getElem?_empty, Option.map_eq_none_iff]
  rw [highest?, List.max?_eq_none_iff, List.map_eq_nil_iff, List.filter_eq_nil_iff] at nothing
  rw [versionRow?, List.find?_eq_none]
  intro row member
  have other := nothing row member
  simp only [decide_eq_true_eq] at other ⊢
  exact fun same => other same.1

/-- A request means the version that the nested engine finds for it, and that version has a row. -/
theorem resolve_cases (wellFormed : tables.WellFormed) (modelId : String) (number : UInt32) :
    (∃ refusal, tables.resolve modelId number = .error refusal ∧
      ((NestedStore.live tables.contents).model modelId >>= (·.version modelId number)) = .error refusal) ∨
    ∃ row, tables.resolve modelId number = .ok row.key ∧ tables.versionRow? modelId row.key = some row ∧
      ((NestedStore.live tables.contents).model modelId >>= (·.version modelId number)) = .ok row.stored := by
  rw [resolve, wellFormed.modelInfo_eq, NestedStore.model, getElem?_contents]
  cases found : tables.modelRow? modelId with
  | none => exact .inl ⟨_, rfl, rfl⟩
  | some model =>
    obtain ⟨_, rfl⟩ := mem_of_modelRow? found
    have versions := wellFormed.getElem?_versions model
    simp only [Option.map_some, Except.map, bind, Except.bind]
    cases top : tables.highest? model.id with
    | none =>
      have missing := StoredModel.version_of_empty model.id number (wellFormed.versions_eq_empty top)
      exact .inl ⟨_, rfl, missing⟩
    | some highest =>
      obtain ⟨best, bestFound, rfl, greatest⟩ := wellFormed.highest?_eq_some top
      have bestVersion : (tables.storedModel model).versions[best.key]? = some best.stored := by
        rw [versions, bestFound, Option.map_some]
      by_cases zero : number = 0
      · subst zero
        refine .inr ⟨best, ?_, bestFound, StoredModel.version_zero model.id bestVersion ?_⟩
        · simp [versionNumber_toNat]
        · intro other present
          rw [Std.ExtTreeMap.mem_iff_isSome_getElem?, versions, Option.isSome_map,
            Option.isSome_iff_exists] at present
          obtain ⟨row, rowFound⟩ := present
          exact greatest other row rowFound
      · cases named : tables.versionRow? model.id number with
        | none =>
          have missing := StoredModel.version_missing model.id zero bestVersion (by simp [versions, named])
          exact .inl ⟨_, by simp [zero]; rfl, missing⟩
        | some row =>
          obtain ⟨member, _, rowNumber⟩ := mem_of_versionRow? named
          have key := ((wellFormed.versions row member).key_eq_iff number).mpr rowNumber
          have version : (tables.storedModel model).versions[number]? = some row.stored := by
            rw [versions, named, Option.map_some]
          rw [← key] at named version zero ⊢
          exact .inr ⟨row, by simp [zero]; rfl, named, StoredModel.version_eq_ok model.id zero version⟩

theorem sound (wellFormed : tables.WellFormed) {modelId : String} {model : StoredModel}
    (found : tables.contents[modelId]? = some model) : model.Sound modelId := by
  rw [getElem?_contents, Option.map_eq_some_iff] at found
  obtain ⟨row, rowFound, rfl⟩ := found
  obtain ⟨rowMember, rfl⟩ := mem_of_modelRow? rowFound
  have searched : ∀ number version, (tables.storedModel row).versions[number]? = some version →
      ∃ stored ∈ tables.versions, stored.modelId = row.id ∧ stored.key = number ∧ stored.stored = version := by
    intro number version listed
    rw [wellFormed.getElem?_versions, Option.map_eq_some_iff] at listed
    obtain ⟨stored, storedFound, same⟩ := listed
    obtain ⟨member, owner, storedNumber⟩ := mem_of_versionRow? storedFound
    exact ⟨stored, member, owner, ((wellFormed.versions stored member).key_eq_iff number).mpr storedNumber, same⟩
  constructor
  · intro number present
    obtain ⟨version, listed⟩ := Option.isSome_iff_exists.mp (Std.ExtTreeMap.mem_iff_isSome_getElem?.mp present)
    obtain ⟨stored, member, owner, rfl, rfl⟩ := searched number version listed
    obtain ⟨other, otherMember, sameId, bound⟩ := wellFormed.owned stored member
    have sameRow : other = row :=
      List.inj_on_of_nodup_map wellFormed.modelKeys otherMember rowMember (sameId.trans owner)
    subst sameRow
    have positive := (wellFormed.versions stored member).number.1
    have latest := (wellFormed.models other otherMember).latest_eq
    rw [(wellFormed.versions stored member).number_eq] at positive bound
    rw [latest] at bound
    simp only [storedModel]
    omega
  · intro number version listed
    obtain ⟨stored, member, owner, rfl, rfl⟩ := searched number version listed
    refine ⟨owner, rfl, ?_⟩
    simp [VersionRow.stored, (wellFormed.versions stored member).size]

end WellFormed

end Tables

end ModelVault.Storage
