import ModelVault.Proofs.Storage.Contents

/-!
What happens to one model: how it hands out numbers, which versions it finds, and that it stays sound.
-/

namespace ModelVault

theorem toNat_add_one {number : UInt32} (more : number ≠ maxVersionNumber) :
    (number + 1).toNat = number.toNat + 1 := by
  have bound := number.toNat_lt
  have notLast : number.toNat ≠ 4294967295 := fun same => more (UInt32.toNat_inj.mp same)
  rw [UInt32.toNat_add, UInt32.toNat_one]
  omega

theorem one_le_toNat {number : UInt32} (positive : number ≠ 0) : 1 ≤ number.toNat := by
  have different : number.toNat ≠ 0 := fun same => positive (UInt32.toNat_inj.mp same)
  omega

theorem max_eq_latest {latest number : UInt32} (bound : number.toNat ≤ latest.toNat) :
    max latest number = latest := by
  change (if latest ≤ number then number else latest) = latest
  split
  · next other => exact UInt32.le_antisymm (UInt32.le_iff_toNat_le.mpr bound) other
  · rfl

theorem max_eq_number {latest number : UInt32} (bound : latest.toNat ≤ number.toNat) :
    max latest number = number :=
  if_pos (UInt32.le_iff_toNat_le.mpr bound)

theorem effectiveLimit_pos (limit : Nat) : 0 < effectiveLimit limit := by
  rw [effectiveLimit, listingCap]
  split <;> omega

/-- A number that is handed out is one that was asked for and exists, or the one after the latest. -/
theorem assignNumber_cases {modelId : String} {latest requested number : UInt32} {exist : Bool}
    (assigned : assignNumber modelId latest requested exist = .ok number) :
    (requested ≠ 0 ∧ exist = true ∧ number = requested) ∨
      (¬(requested ≠ 0 ∧ exist = true) ∧ latest ≠ maxVersionNumber ∧ number = latest + 1) := by
  unfold assignNumber at assigned
  split at assigned
  · next replaced => exact .inl ⟨replaced.1, replaced.2, (Except.ok.inj assigned).symm⟩
  · next new =>
    split at assigned
    · cases assigned
    · next more =>
      split at assigned
      · exact .inr ⟨new, more, (Except.ok.inj assigned).symm⟩
      · cases assigned

theorem assignNumber_guard (modelId : String) (latest requested : UInt32) (exist : Bool) :
    assignNumber modelId latest requested (decide (requested ≠ 0 ∧ exist = true)) =
      assignNumber modelId latest requested exist := by
  simp [assignNumber]

namespace Storage

theorem greatest_of_getLast?_toList {Value : Type} {versions : Std.ExtTreeMap UInt32 Value}
    {entry : UInt32 × Value}
    (last : versions.toList.getLast? = some entry) :
    versions[entry.1]? = some entry.2 ∧ ∀ number ∈ versions, number ≤ entry.1 := by
  obtain ⟨before, listed⟩ := List.getLast?_eq_some_iff.mp last
  constructor
  · rw [← Std.ExtTreeMap.mem_toList_iff_getElem?_eq_some, listed]
    simp
  · intro number present
    obtain ⟨value, found⟩ := Option.isSome_iff_exists.mp (Std.ExtTreeMap.mem_iff_isSome_getElem?.mp present)
    have member := Std.ExtTreeMap.mem_toList_iff_getElem?_eq_some.mpr found
    have ordered := Std.ExtTreeMap.ordered_keys_toList (t := versions)
    rw [listed, List.pairwise_append] at ordered
    rw [listed, List.mem_append, List.mem_singleton] at member
    rcases member with earlier | final
    · have below := ordered.2.2 _ earlier entry (by simp)
      exact UInt32.le_of_lt (Std.compare_eq_lt.mp below)
    · rw [← final]
      exact UInt32.le_refl _

theorem getLast?_toList {Value : Type} {versions : Std.ExtTreeMap UInt32 Value} {highest : UInt32}
    {value : Value} (found : versions[highest]? = some value)
    (greatest : ∀ number ∈ versions, number ≤ highest) :
    versions.toList.getLast? = some (highest, value) := by
  have present : highest ∈ versions := Std.ExtTreeMap.mem_iff_isSome_getElem?.mpr (by simp [found])
  cases last : versions.toList.getLast? with
  | none =>
    have member := Std.ExtTreeMap.mem_toList_iff_getElem?_eq_some.mpr found
    simp [List.getLast?_eq_none_iff.mp last] at member
  | some entry =>
    obtain ⟨entryFound, bound⟩ := greatest_of_getLast?_toList last
    have entryPresent : entry.1 ∈ versions := Std.ExtTreeMap.mem_iff_isSome_getElem?.mpr (by simp [entryFound])
    have same := UInt32.le_antisymm (greatest entry.1 entryPresent) (bound highest present)
    rw [same, found] at entryFound
    rw [← same, Option.some.inj entryFound]

namespace StoredModel

variable {model next : StoredModel} {version : StoredVersion} {modelId : String} {draft : VersionDraft}

private theorem isEmpty_versions {number : UInt32} (found : model.versions[number]? = some version) :
    model.versions.isEmpty = false := by
  have present : number ∈ model.versions :=
    Std.ExtTreeMap.mem_iff_isSome_getElem?.mpr (by simp [found])
  exact Std.ExtTreeMap.isEmpty_eq_false_iff.mpr fun empty => by simp [empty] at present

theorem version_eq_ok (modelId : String) {number : UInt32} (positive : number ≠ 0)
    (found : model.versions[number]? = some version) : model.version modelId number = .ok version := by
  simp [StoredModel.version, isEmpty_versions found, positive, found]

theorem version_zero (modelId : String) {highest : UInt32}
    (found : model.versions[highest]? = some version)
    (greatest : ∀ number ∈ model.versions, number ≤ highest) : model.version modelId 0 = .ok version := by
  simp [StoredModel.version, isEmpty_versions found, getLast?_toList found greatest]

theorem version_missing (modelId : String) {number other : UInt32} (positive : number ≠ 0)
    (found : model.versions[other]? = some version) (missing : model.versions[number]? = none) :
    model.version modelId number = .error (.unknownVersion modelId number) := by
  simp [StoredModel.version, isEmpty_versions found, positive, missing]

theorem version_of_empty (modelId : String) (number : UInt32) (empty : model.versions = ∅) :
    model.version modelId number = .error (.unknownVersion modelId 0) := by
  simp [StoredModel.version, empty]

/-- A request finds the version of its number, or, for zero, the one of the highest number. -/
theorem version_cases {number : UInt32} (found : model.version modelId number = .ok version) :
    ∃ key, model.versions[key]? = some version ∧ (number ≠ 0 → key = number) ∧
      (number = 0 → ∀ other ∈ model.versions, other ≤ key) := by
  rw [StoredModel.version] at found
  split at found
  · cases found
  · by_cases zero : number = 0
    · simp only [zero, if_true] at found
      cases last : model.versions.toList.getLast? with
      | none => simp [last] at found
      | some entry =>
        obtain ⟨listed, greatest⟩ := greatest_of_getLast?_toList last
        simp only [last, Option.map_some, Except.ok.injEq] at found
        exact ⟨entry.1, found ▸ listed, fun positive => absurd zero positive, fun _ => greatest⟩
    · simp only [zero, if_false] at found
      cases listed : model.versions[number]? with
      | none => simp [listed] at found
      | some other =>
        simp only [listed, Except.ok.injEq] at found
        exact ⟨number, found ▸ listed, fun _ => rfl, fun same => absurd same zero⟩

theorem putVersion_eq_error {refusal : StoreError} :
    model.putVersion modelId draft = .error refusal ↔
      assignNumber modelId model.latest draft.number (model.versions.contains draft.number) = .error refusal := by
  rw [StoredModel.putVersion]
  cases assignNumber modelId model.latest draft.number (model.versions.contains draft.number) with
  | error other => simp [bind, Except.bind]
  | ok number => simp [bind, Except.bind, pure, Except.pure]

theorem putVersion_eq_ok {info : VersionInfo} :
    model.putVersion modelId draft = .ok (info, next) ↔ ∃ number,
      assignNumber modelId model.latest draft.number (model.versions.contains draft.number) = .ok number ∧
        draft.info modelId number = info ∧
        { model with
          versions := model.versions.insert number ⟨draft.info modelId number, draft.data⟩
          latest := max model.latest number } = next := by
  rw [StoredModel.putVersion]
  cases assignNumber modelId model.latest draft.number (model.versions.contains draft.number) with
  | error other => simp [bind, Except.bind]
  | ok number => simp [bind, Except.bind, pure, Except.pure]

namespace Sound

theorem new (modelId : String) (userData : UserData) : (StoredModel.new userData).Sound modelId where
  handedOut number present := by simp [StoredModel.new] at present
  described number version found := by simp [StoredModel.new] at found

theorem putUserData (sound : model.Sound modelId) (userData : UserData) :
    ({ model with userData := userData } : StoredModel).Sound modelId where
  handedOut := sound.handedOut
  described := sound.described

theorem deleteVersion (sound : model.Sound modelId) (number : UInt32) :
    ({ model with versions := model.versions.erase number } : StoredModel).Sound modelId where
  handedOut other present := sound.handedOut other (Std.ExtTreeMap.mem_of_mem_erase present)
  described other version found := by
    rw [Std.ExtTreeMap.getElem?_erase] at found
    split at found
    · cases found
    · exact sound.described other version found

theorem assigned_cases (sound : model.Sound modelId) {requested number : UInt32}
    (assigned : assignNumber modelId model.latest requested (model.versions.contains requested) = .ok number) :
    (number = requested ∧ number ∈ model.versions ∧ max model.latest number = model.latest) ∨
      (number ∉ model.versions ∧ number.toNat = model.latest.toNat + 1 ∧ max model.latest number = number) := by
  rcases assignNumber_cases assigned with ⟨_, exist, rfl⟩ | ⟨_, more, rfl⟩
  · have present := Std.ExtTreeMap.mem_iff_contains.mpr exist
    exact .inl ⟨rfl, present, max_eq_latest (sound.handedOut number present).2⟩
  · have next := toNat_add_one more
    refine .inr ⟨?_, next, max_eq_number (by omega)⟩
    intro present
    have bound := (sound.handedOut _ present).2
    omega

theorem putVersion (sound : model.Sound modelId) {info : VersionInfo}
    (stored : model.putVersion modelId draft = .ok (info, next)) : next.Sound modelId := by
  obtain ⟨number, assigned, rfl, rfl⟩ := putVersion_eq_ok.mp stored
  have bounds : 1 ≤ number.toNat ∧ number.toNat ≤ (max model.latest number).toNat ∧
      model.latest.toNat ≤ (max model.latest number).toNat := by
    rcases sound.assigned_cases assigned with ⟨_, present, latest⟩ | ⟨_, next, latest⟩
    · rw [latest]
      exact ⟨(sound.handedOut number present).1, (sound.handedOut number present).2, Nat.le_refl _⟩
    · rw [latest]
      omega
  constructor
  · intro other present
    rcases Std.ExtTreeMap.mem_insert.mp present with same | old
    · rw [← Std.LawfulEqCmp.eq_of_compare same]
      exact ⟨bounds.1, bounds.2.1⟩
    · have before := sound.handedOut other old
      exact ⟨before.1, Nat.le_trans before.2 bounds.2.2⟩
  · intro other version found
    rw [Std.ExtTreeMap.getElem?_insert] at found
    split at found
    · next same =>
      cases found
      exact ⟨rfl, Std.LawfulEqCmp.eq_of_compare same, rfl⟩
    · exact sound.described other version found

end Sound

end StoredModel

end Storage

end ModelVault
