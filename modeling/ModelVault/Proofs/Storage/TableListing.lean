import ModelVault.Proofs.Storage.TableReading
import Mathlib.Data.List.Nodup

/-!
Listing well-formed tables: sorted rows come in the order in which the nested engine keeps its entries, so a
page of the one is a page of the other.
-/

namespace ModelVault.Storage.Tables.WellFormed

variable {tables : Tables}

/-- The identifiers in their order are the keys of the models. -/
theorem sortedIds_eq (wellFormed : tables.WellFormed) :
    (tables.models.map (·.id)).mergeSort (· ≤ ·) = tables.contents.keys := by
  have same : ((tables.models.map (·.id)).mergeSort (· ≤ ·)).Perm tables.contents.keys := by
    refine (List.mergeSort_perm _ _).trans ?_
    rw [List.perm_ext_iff_of_nodup wellFormed.modelKeys Std.ExtTreeMap.nodup_keys]
    intro modelId
    rw [Std.ExtTreeMap.mem_keys, Std.ExtTreeMap.mem_iff_isSome_getElem?, getElem?_contents, Option.isSome_map,
      modelRow?, List.find?_isSome]
    simp
  have sorted := @List.pairwise_mergeSort String (fun first second => decide (first ≤ second))
    (fun first second third below above => by
      simp only [decide_eq_true_eq] at below above ⊢
      exact String.le_trans below above)
    (fun first second => by simpa using String.le_total first second)
    (tables.models.map (·.id))
  have ordered : tables.contents.keys.Pairwise (· ≤ ·) := by
    refine Std.ExtTreeMap.ordered_keys.imp ?_
    intro first second below
    exact Std.le_of_not_ge fun above => above (compareOfLessAndEq_eq_lt.mp below)
  exact List.Perm.eq_of_pairwise (fun _ _ _ _ => String.le_antisymm) (sorted.imp of_decide_eq_true) ordered same

/-- A page of the models, unless it lies behind more models than signed 64-bit integers count. -/
theorem listModels_eq (wellFormed : tables.WellFormed) {offset : Nat} (limit : Nat)
    (counted : offset ≤ maxInt64.toNat ∨ tables.contents.size ≤ maxInt64.toNat) :
    tables.listModels offset limit = (tables.contents.keys.drop offset).take (effectiveLimit limit) := by
  rw [listModels, wellFormed.sortedIds_eq]
  by_cases beyond : offset ≤ maxInt64.toNat
  · rw [Nat.min_eq_left beyond]
  · have short : tables.contents.keys.length ≤ maxInt64.toNat := by
      rw [Std.ExtTreeMap.length_keys]
      exact counted.resolve_left beyond
    rw [List.drop_eq_nil_of_le (by omega), List.drop_eq_nil_of_le (by omega)]

private def rowsFrom (tables : Tables) (modelId : String) (first : UInt32) : List VersionRow :=
  tables.versions.filter fun row => row.modelId = modelId ∧ (first.toNat : Int) ≤ row.number

private def entry (row : VersionRow) : UInt32 × StoredVersion :=
  (row.key, row.stored)

private theorem mem_rowsFrom (wellFormed : tables.WellFormed) {modelId : String} {first : UInt32}
    {row : VersionRow} : row ∈ rowsFrom tables modelId first ↔
      row ∈ tables.versions ∧ row.modelId = modelId ∧ first ≤ row.key := by
  rw [rowsFrom, List.mem_filter, decide_eq_true_eq]
  refine and_congr_right fun member => and_congr_right fun _ => ?_
  rw [(wellFormed.versions row member).number_eq, Int.ofNat_le, UInt32.le_iff_toNat_le]

private theorem nodup_rowsFrom (wellFormed : tables.WellFormed) (modelId : String) (first : UInt32) :
    ((rowsFrom tables modelId first).map entry).Nodup := by
  refine List.Nodup.map_on ?_ ((List.Nodup.of_map _ wellFormed.versionKeys).filter _)
  intro row listed other otherListed same
  obtain ⟨member, owner, _⟩ := wellFormed.mem_rowsFrom.mp listed
  obtain ⟨otherMember, otherOwner, _⟩ := wellFormed.mem_rowsFrom.mp otherListed
  have sameKey : row.key = other.key := congrArg Prod.fst same
  apply List.inj_on_of_nodup_map wellFormed.versionKeys member otherMember
  rw [owner, otherOwner, (wellFormed.versions row member).number_eq,
    (wellFormed.versions other otherMember).number_eq, sameKey]

private theorem perm_rowsFrom (wellFormed : tables.WellFormed) (model : ModelRow) (first : UInt32) :
    ((rowsFrom tables model.id first).map entry).Perm
      ((tables.storedModel model).versions.toList.filter (first ≤ ·.1)) := by
  have distinct : (tables.storedModel model).versions.toList.Nodup := by
    refine Std.ExtTreeMap.distinct_keys_toList.imp ?_
    rintro listed _ different rfl
    exact different Std.ReflCmp.compare_self
  rw [List.perm_ext_iff_of_nodup (wellFormed.nodup_rowsFrom model.id first) (distinct.filter _)]
  rintro ⟨number, stored⟩
  rw [List.mem_filter, Std.ExtTreeMap.mem_toList_iff_getElem?_eq_some, wellFormed.getElem?_versions,
    Option.map_eq_some_iff, List.mem_map]
  constructor
  · rintro ⟨row, listed, same⟩
    obtain ⟨member, owner, later⟩ := wellFormed.mem_rowsFrom.mp listed
    cases same
    exact ⟨⟨row, owner ▸ wellFormed.versionRow?_eq_some member, rfl⟩, decide_eq_true later⟩
  · rintro ⟨⟨row, found, rfl⟩, later⟩
    obtain ⟨member, owner, same⟩ := mem_of_versionRow? found
    have key := ((wellFormed.versions row member).key_eq_iff number).mpr same
    subst key
    exact ⟨row, wellFormed.mem_rowsFrom.mpr ⟨member, owner, of_decide_eq_true later⟩, rfl⟩

private theorem sortedRows_eq (wellFormed : tables.WellFormed) (model : ModelRow) (first : UInt32) :
    ((rowsFrom tables model.id first).mergeSort (·.number ≤ ·.number)).map entry =
      (tables.storedModel model).versions.toList.filter (first ≤ ·.1) := by
  have same := ((List.mergeSort_perm (rowsFrom tables model.id first) (·.number ≤ ·.number)).map entry).trans
    (wellFormed.perm_rowsFrom model first)
  have sorted := @List.pairwise_mergeSort VersionRow (fun row other => row.number ≤ other.number)
    (fun _ _ _ => by simpa using Int.le_trans) (fun _ _ => by simpa using Int.le_total _ _)
    (rowsFrom tables model.id first)
  apply @List.Perm.eq_of_pairwise _ (fun first second => first.1 ≤ second.1) _ _ ?_ ?_ ?_ same
  · intro listed other isListed otherListed below above
    have member := List.mem_of_mem_filter (same.mem_iff.mp isListed)
    have otherMember := List.mem_of_mem_filter otherListed
    rw [Std.ExtTreeMap.mem_toList_iff_getElem?_eq_some] at member otherMember
    have number := UInt32.le_antisymm below above
    rw [number, otherMember] at member
    exact Prod.ext number (Option.some.inj member).symm
  · rw [List.pairwise_map]
    refine List.Pairwise.imp_of_mem ?_ sorted
    intro row other listed otherListed below
    have member := (wellFormed.mem_rowsFrom.mp (List.mem_mergeSort.mp listed)).1
    have otherMember := (wellFormed.mem_rowsFrom.mp (List.mem_mergeSort.mp otherListed)).1
    rw [decide_eq_true_eq, (wellFormed.versions row member).number_eq,
      (wellFormed.versions other otherMember).number_eq, Int.ofNat_le] at below
    exact UInt32.le_iff_toNat_le.mpr below
  · refine (Std.ExtTreeMap.ordered_keys_toList.imp ?_).filter _
    intro listed other below
    exact Std.isLE_compare.mp (by rw [below]; rfl)

private theorem mapM_info {rows : List VersionRow} (valid : ∀ row ∈ rows, row.Valid) :
    rows.mapM VersionRow.info = .ok (rows.map (·.stored.info)) := by
  induction rows with
  | nil => rfl
  | cons row rest ih =>
    rw [List.mapM_cons, (valid row (List.mem_cons_self ..)).info_eq,
      ih fun other member => valid other (List.mem_cons_of_mem _ member)]
    rfl

/-- A page of the versions is the one that the nested engine gives. -/
theorem listVersions_eq (wellFormed : tables.WellFormed) (modelId : String) (first : UInt32) (limit : Nat) :
    tables.listVersions modelId first limit =
      (NestedStore.live tables.contents).listVersions modelId first limit := by
  rw [listVersions, NestedStore.listVersions, wellFormed.modelInfo_eq, NestedStore.model, getElem?_contents]
  cases found : tables.modelRow? modelId with
  | none => rfl
  | some model =>
    obtain ⟨_, rfl⟩ := mem_of_modelRow? found
    have valid : ∀ row ∈ ((rowsFrom tables model.id first).mergeSort (·.number ≤ ·.number)).take
        (effectiveLimit limit), row.Valid := by
      intro row listed
      exact wellFormed.versions row
        (wellFormed.mem_rowsFrom.mp (List.mem_mergeSort.mp (List.mem_of_mem_take listed))).1
    have read := mapM_info valid
    rw [rowsFrom] at read
    simp only [Option.map_some, Except.map, bind, Except.bind, pure, Except.pure, read,
      ← wellFormed.sortedRows_eq, ← List.map_take, List.map_map]
    rfl

end ModelVault.Storage.Tables.WellFormed
