import ModelVault.Proofs.Storage.Origins

/-!
One rule says which version a number addresses, for those who describe it, fetch it or delete it, and
listings show the versions that can be addressed.
-/

namespace ModelVault.Storage

namespace StoredModel

variable {model : StoredModel} {modelId : String}

/-- No version is found where there is none at all, or none of the number that was asked for. -/
theorem version_refused {number : UInt32} {refusal : StoreError}
    (refused : model.version modelId number = .error refusal) :
    (model.versions = ∅ ∧ refusal = .unknownVersion modelId 0) ∨
      (model.versions ≠ ∅ ∧ number ≠ 0 ∧ model.versions[number]? = none ∧
        refusal = .unknownVersion modelId number) := by
  rw [StoredModel.version] at refused
  split at refused
  · next none => exact .inl ⟨Std.ExtTreeMap.isEmpty_iff.mp none, (Except.error.inj refused).symm⟩
  · next some =>
    have filled : model.versions ≠ ∅ := fun empty => some (Std.ExtTreeMap.isEmpty_iff.mpr empty)
    by_cases zero : number = 0
    · simp only [zero, if_true] at refused
      cases last : model.versions.toList.getLast? with
      | none =>
        have empty := List.getLast?_eq_none_iff.mp last
        exact absurd (Std.ExtTreeMap.toList_eq_nil_iff.mp empty) filled
      | some entry => simp [last] at refused
    · simp only [zero, if_false] at refused
      cases found : model.versions[number]? with
      | some version => simp [found] at refused
      | none =>
        simp only [found, Except.error.injEq] at refused
        exact .inr ⟨filled, zero, rfl, refused.symm⟩

def infos (model : StoredModel) : List VersionInfo :=
  model.versions.toList.map (·.2.info)

theorem infos_eq_nil_iff : model.infos = [] ↔ model.versions = ∅ := by
  rw [infos, List.map_eq_nil_iff, Std.ExtTreeMap.toList_eq_nil_iff]

private theorem pairwise_toList (versions : Std.ExtTreeMap UInt32 StoredVersion) :
    versions.toList.Pairwise fun one other => one.1 < other.1 :=
  Std.ExtTreeMap.ordered_keys_toList.imp fun below => Std.compare_eq_lt.mp below

namespace Sound

variable (sound : model.Sound modelId)

include sound

theorem mem_infos_iff {info : VersionInfo} : info ∈ model.infos ↔
    ∃ version, model.versions[info.number]? = some version ∧ version.info = info := by
  rw [infos, List.mem_map]
  constructor
  · rintro ⟨⟨number, version⟩, listed, rfl⟩
    have stored := Std.ExtTreeMap.mem_toList_iff_getElem?_eq_some.mp listed
    have numbered := (sound.described number version stored).2.1
    exact ⟨version, by rw [numbered, stored], rfl⟩
  · rintro ⟨version, stored, described⟩
    exact ⟨(info.number, version), Std.ExtTreeMap.mem_toList_iff_getElem?_eq_some.mpr stored, described⟩

theorem pairwise_infos : model.infos.Pairwise fun one other => one.number < other.number := by
  rw [infos, List.pairwise_map]
  refine (pairwise_toList model.versions).imp_of_mem ?_
  intro one other oneListed otherListed below
  rwa [(sound.described one.1 one.2 (Std.ExtTreeMap.mem_toList_iff_getElem?_eq_some.mp oneListed)).2.1,
    (sound.described other.1 other.2 (Std.ExtTreeMap.mem_toList_iff_getElem?_eq_some.mp otherListed)).2.1]

/-- Versions are told apart by their numbers before or after they are described. -/
theorem filter_infos (wanted : UInt32 → Bool) : (model.versions.toList.filter (wanted ·.1)).map (·.2.info) =
    model.infos.filter (wanted ·.number) := by
  rw [infos, List.filter_map]
  congr 1
  refine List.filter_congr fun entry listed => ?_
  have stored := Std.ExtTreeMap.mem_toList_iff_getElem?_eq_some.mp listed
  rw [Function.comp, (sound.described entry.1 entry.2 stored).2.1]

end Sound

private theorem toList_erase (versions : Std.ExtTreeMap UInt32 StoredVersion) (number : UInt32) :
    (versions.erase number).toList = versions.toList.filter (·.1 ≠ number) := by
  have nodup : ∀ {entries : List (UInt32 × StoredVersion)},
      entries.Pairwise (fun one other => one.1 < other.1) → entries.Nodup :=
    fun ordered => ordered.imp fun below same => absurd (same ▸ below) (UInt32.lt_irrefl _)
  have erased := pairwise_toList (versions.erase number)
  have others := (pairwise_toList versions).filter (·.1 ≠ number)
  refine ((List.perm_ext_iff_of_nodup (nodup erased) (nodup others)).mpr ?_).eq_of_pairwise
    (fun _ _ _ _ below above => absurd above (UInt32.lt_asymm below)) erased others
  rintro ⟨other, version⟩
  rw [Std.ExtTreeMap.mem_toList_iff_getElem?_eq_some, Std.ExtTreeMap.getElem?_erase, List.mem_filter,
    Std.ExtTreeMap.mem_toList_iff_getElem?_eq_some]
  by_cases same : number = other
  · simp [same]
  · simp [same, Ne.symm same]

theorem infos_erase_last {last : UInt32 × StoredVersion} (ends : model.versions.toList.getLast? = some last) :
    ({ model with versions := model.versions.erase last.1 } : StoredModel).infos = model.infos.dropLast := by
  obtain ⟨before, listed⟩ := List.getLast?_eq_some_iff.mp ends
  have ordered := pairwise_toList model.versions
  rw [listed, List.pairwise_append] at ordered
  have kept : before.filter (·.1 ≠ last.1) = before := by
    rw [List.filter_eq_self]
    intro entry earlier
    have below := ordered.2.2 entry earlier last (List.mem_singleton_self last)
    exact decide_eq_true fun same => absurd (same ▸ below) (UInt32.lt_irrefl _)
  have left : (model.versions.erase last.1).toList = before := by
    rw [toList_erase, listed, List.filter_append, kept]
    simp
  rw [infos, left, infos, listed, List.map_append, List.map_singleton, List.dropLast_concat]

end StoredModel

namespace Store

variable {store : Store} {modelId : String} {requested : UInt32}

def Knows (store : Store) (modelId : String) : Prop :=
  (store.perform (.hasModel modelId)).1 = .ok true

theorem knows_iff (sound : store.Sound) :
    store.Knows modelId ↔ store.isOpen = true ∧ ∃ model, store.contents[modelId]? = some model := by
  constructor
  · intro known
    have lasting : Call.hasModel modelId ≠ .destroy := nofun
    have opened := isOpen_of_answered (Prod.ext known rfl) lasting
    rw [Knows, perform_hasModel sound opened] at known
    have contained : store.contents.contains modelId = true := Except.ok.inj known
    rw [Std.ExtTreeMap.contains_eq_isSome_getElem?, Option.isSome_iff_exists] at contained
    exact ⟨opened, contained⟩
  · rintro ⟨opened, model, found⟩
    rw [Knows, perform_hasModel sound opened, Std.ExtTreeMap.contains_eq_isSome_getElem?, found]
    rfl

/-- A store that is open answers whether it has a model. -/
theorem unknown_iff (sound : store.Sound) (opened : store.isOpen = true) :
    (store.perform (.hasModel modelId)).1 = .ok false ↔ store.contents[modelId]? = none := by
  rw [perform_hasModel sound opened, Std.ExtTreeMap.contains_eq_isSome_getElem?]
  cases store.contents[modelId]? with
  | none => exact ⟨fun _ => rfl, fun _ => rfl⟩
  | some model => exact ⟨nofun, nofun⟩

/-- What a request by model and number comes to, which is the version that it addresses, or the reason why there
is none. -/
structure Addresses (store : Store) (modelId : String) (requested : UInt32)
    (outcome : Except StoreError StoredVersion) : Prop where
  /-- The version is described, its data is given, -/
  described : store.perform (.versionInfo modelId requested) = (outcome.map (·.info), store)
  given : store.perform (.versionData modelId requested) = (outcome.map (·.data), store)
  /-- and it is deleted, and nothing else with it. -/
  deleted : (store.perform (.deleteVersion modelId requested)).1 = outcome.map fun _ => ()
  left : ∀ other number version, (store.perform (.deleteVersion modelId requested)).2.Holds other number version ↔
    store.Holds other number version ∧
      ¬(other = modelId ∧ ∃ addressed, outcome = .ok addressed ∧ addressed.info.number = number)
  /-- There is a version exactly if the model has the one of the number or, for zero, any, -/
  answered : (∃ version, outcome = .ok version) ↔ store.Knows modelId ∧
    ∃ number version, store.Holds modelId number version ∧ (requested = 0 ∨ number = requested)
  /-- and it is the one that the number means. -/
  addressed : ∀ version, outcome = .ok version → ∃ number, store.Means modelId requested number version
  unknownModel : outcome = .error (.unknownModel modelId) ↔ (store.perform (.hasModel modelId)).1 = .ok false
  noVersion : outcome = .error (.unknownVersion modelId 0) ↔
    store.Knows modelId ∧ ∀ number version, ¬store.Holds modelId number version
  unknownVersion : requested ≠ 0 → (outcome = .error (.unknownVersion modelId requested) ↔
    store.Knows modelId ∧ (∃ number version, store.Holds modelId number version) ∧
      ∀ version, ¬store.Holds modelId requested version)

private theorem addresses_closed (sound : store.Sound) (closed : store.isOpen = false) :
    store.Addresses modelId requested (.error .destroyed) := by
  have unknown : ¬store.Knows modelId := by
    rw [knows_iff sound, closed]
    simp
  have deleted : store.perform (.deleteVersion modelId requested) = (.error .destroyed, store) :=
    perform_closed closed nofun
  have asked : store.perform (.hasModel modelId) = (.error .destroyed, store) := perform_closed closed nofun
  exact {
    described := perform_closed closed nofun
    given := perform_closed closed nofun
    deleted := by rw [deleted]; rfl
    left := by simp [deleted]
    answered := by simp [unknown]
    addressed := nofun
    unknownModel := by rw [asked]; exact ⟨nofun, nofun⟩
    noVersion := by simp [unknown]
    unknownVersion := by simp [unknown] }

/-- What the deletion of a version comes to is what the request for it comes to. -/
theorem perform_deleteVersion (sound : store.Sound) (opened : store.isOpen = true) :
    (store.perform (.deleteVersion modelId requested)).1 =
      ((NestedStore.live store.contents).model modelId >>= (·.version modelId requested)).map fun _ => () := by
  have lasting : Call.deleteVersion modelId requested ≠ .destroy := nofun
  have served := (perform_served sound opened lasting).1
  revert served
  generalize (store.perform (.deleteVersion modelId requested)).1 = reply
  generalize (store.perform (.deleteVersion modelId requested)).2.contents = models
  intro served
  cases served with
  | asked _ _ question => cases question
  | versionDeleted _ _ model version known found =>
    rw [NestedStore.model, known]
    exact (congrArg (Except.map fun _ => ()) found).symm
  | versionUnknown _ _ refusal refused => exact (congrArg (Except.map fun _ => ()) refused).symm

private theorem holds_of_known {model : StoredModel} (known : store.contents[modelId]? = some model)
    {number : UInt32} {version : StoredVersion} :
    store.Holds modelId number version ↔ model.versions[number]? = some version := by
  rw [holds_iff, model_eq known]

private theorem versions_eq_empty_iff {model : StoredModel} (known : store.contents[modelId]? = some model) :
    model.versions = ∅ ↔ ∀ number version, ¬store.Holds modelId number version := by
  simp only [holds_of_known known]
  constructor
  · rintro empty number version stored
    simp [empty] at stored
  · intro none
    apply Std.ExtTreeMap.ext_getElem?
    intro number
    rw [Option.eq_none_iff_forall_ne_some.mpr (none number)]
    simp

/-- Why a number addresses no version: the model is missing, or it has no version, or none of this number. -/
inductive Misses (store : Store) (modelId : String) (requested : UInt32) : StoreError → Prop where
  | model (unknown : store.contents[modelId]? = none) : Misses store modelId requested (.unknownModel modelId)
  | versions (model : StoredModel) (known : store.contents[modelId]? = some model)
    (none : ∀ number version, ¬store.Holds modelId number version) :
    Misses store modelId requested (.unknownVersion modelId 0)
  | number (model : StoredModel) (known : store.contents[modelId]? = some model)
    (some : ∃ number version, store.Holds modelId number version) (positive : requested ≠ 0)
    (none : ∀ version, ¬store.Holds modelId requested version) :
    Misses store modelId requested (.unknownVersion modelId requested)

private theorem lookup_eq_error {refusal : StoreError} :
    ((NestedStore.live store.contents).model modelId >>= (·.version modelId requested)) = .error refusal ↔
      store.Misses modelId requested refusal := by
  rw [NestedStore.model]
  constructor
  · intro refused
    cases known : store.contents[modelId]? with
    | none =>
      rw [known] at refused
      cases refused
      exact .model known
    | some model =>
      rw [known] at refused
      rcases StoredModel.version_refused refused with ⟨empty, rfl⟩ | ⟨filled, positive, missing, rfl⟩
      · exact .versions model known ((versions_eq_empty_iff known).mp empty)
      · have some := mt (versions_eq_empty_iff known).mpr filled
        simp only [Classical.not_forall, Classical.not_not] at some
        refine .number model known some positive fun version held => ?_
        rw [holds_of_known known, missing] at held
        cases held
  · rintro (unknown | ⟨model, known, none⟩ | ⟨model, known, ⟨number, version, held⟩, positive, none⟩)
    · rw [unknown]
      rfl
    · rw [known]
      exact model.version_of_empty modelId requested ((versions_eq_empty_iff known).mpr none)
    · rw [known]
      simp only [holds_of_known known] at held none
      exact StoredModel.version_missing modelId positive held (Option.eq_none_iff_forall_ne_some.mpr none)

theorem addresses_open (sound : store.Sound) (opened : store.isOpen = true) :
    store.Addresses modelId requested
      ((NestedStore.live store.contents).model modelId >>= (·.version modelId requested)) where
  described := perform_versionInfo sound opened modelId requested
  given := perform_versionData sound opened modelId requested
  deleted := perform_deleteVersion sound opened
  left other number version := by
    have lasting : Event.call (.deleteVersion modelId requested) ≠ .call .destroy := nofun
    have settled : ((Event.call (.deleteVersion modelId requested)).apply store).Holds other number version ↔ _ :=
      holds_apply_iff sound lasting
    refine settled.trans ((or_iff_right (by rintro ⟨_, ⟨⟩, _⟩)).trans ?_)
    refine and_congr_right fun _ => not_congr ⟨fun taken => ?_, ?_⟩
    · cases taken with
      | version _ addressed means _ =>
        exact ⟨rfl, addressed, lookup_eq_ok.mpr ⟨number, means⟩, (means.held.described sound).2.1⟩
    · rintro ⟨rfl, addressed, found, numbered⟩
      obtain ⟨key, means⟩ := lookup_eq_ok.mp found
      obtain rfl := (means.held.described sound).2.1.symm.trans numbered
      exact .version requested addressed means (by rw [perform_deleteVersion sound opened, found]; rfl)
  answered := by
    rw [knows_iff sound]
    constructor
    · rintro ⟨version, found⟩
      obtain ⟨number, means⟩ := lookup_eq_ok.mp found
      obtain ⟨model, known, _⟩ := means.held
      exact ⟨⟨opened, model, known⟩, number, version, means.held, or_iff_not_imp_left.mpr means.named⟩
    · rintro ⟨⟨_, model, known⟩, number, version, held, meant⟩
      cases found : (NestedStore.live store.contents).model modelId >>= (·.version modelId requested) with
      | ok addressed => exact ⟨addressed, rfl⟩
      | error refusal =>
        cases lookup_eq_error.mp found with
        | model unknown => rw [unknown] at known; cases known
        | versions _ _ none => exact absurd held (none number version)
        | number _ _ _ positive none => exact absurd (meant.resolve_left positive ▸ held) (none version)
  addressed version found := lookup_eq_ok.mp found
  unknownModel := by
    rw [lookup_eq_error, unknown_iff sound opened]
    constructor
    · intro misses
      cases misses with
      | model unknown => exact unknown
    · exact .model
  noVersion := by
    rw [lookup_eq_error, knows_iff sound]
    constructor
    · intro misses
      cases misses with
      | versions model known none => exact ⟨⟨opened, model, known⟩, none⟩
      | number _ _ _ positive => exact absurd rfl positive
    · rintro ⟨⟨_, model, known⟩, none⟩
      exact .versions model known none
  unknownVersion positive := by
    rw [lookup_eq_error, knows_iff sound]
    constructor
    · intro misses
      cases misses with
      | versions => exact absurd rfl positive
      | number model known some _ none => exact ⟨⟨opened, model, known⟩, some, none⟩
    · rintro ⟨⟨_, model, known⟩, some, none⟩
      exact .number model known some positive none

theorem perform_listVersions_known (sound : store.Sound) (opened : store.isOpen = true) {model : StoredModel}
    (known : store.contents[modelId]? = some model) (first : UInt32) (limit : Nat) :
    store.perform (.listVersions modelId first limit) =
      (.ok ((model.infos.filter (first ≤ ·.number)).take (effectiveLimit limit)), store) := by
  have modelSound := sound.model modelId
  rw [model_eq known] at modelSound
  rw [perform_listVersions sound opened, NestedStore.listVersions, NestedStore.model, known,
    ← modelSound.filter_infos (first ≤ ·), ← List.map_take]
  rfl

/-- The pages of a model's versions, one after the other. Each begins behind the last version of the one before, and
there is none behind an empty page or behind the last number that there can be. -/
inductive Lists (store : Store) (modelId : String) (limit : Nat) : UInt32 → List VersionInfo → Prop where
  | empty {first : UInt32} (listed : store.perform (.listVersions modelId first limit) = (.ok [], store)) :
    Lists store modelId limit first []
  | last {first : UInt32} {page : List VersionInfo} {last : VersionInfo}
    (listed : store.perform (.listVersions modelId first limit) = (.ok page, store))
    (ends : page.getLast? = some last) (final : last.number = maxVersionNumber) :
    Lists store modelId limit first page
  | more {first : UInt32} {page others : List VersionInfo} {last : VersionInfo}
    (listed : store.perform (.listVersions modelId first limit) = (.ok page, store))
    (ends : page.getLast? = some last) (below : last.number ≠ maxVersionNumber)
    (rest : Lists store modelId limit (last.number + 1) others) : Lists store modelId limit first (page ++ others)

private theorem behind_eq_filter {infos before others : List VersionInfo} {last : VersionInfo} {first : UInt32}
    (ordered : infos.Pairwise fun one other => one.number < other.number)
    (split : infos.filter (first ≤ ·.number) = before ++ last :: others) :
    infos.filter (last.number < ·.number) = others := by
  have member : last ∈ infos.filter (first ≤ ·.number) := by simp [split]
  have inside : first ≤ last.number := of_decide_eq_true (List.mem_filter.mp member).2
  have pairs := ordered.filter (first ≤ ·.number)
  rw [split, List.pairwise_append, List.pairwise_cons] at pairs
  have earlier : before.filter (last.number < ·.number) = [] := by
    rw [List.filter_eq_nil_iff]
    intro info listed
    have below := pairs.2.2 info listed last (List.mem_cons_self ..)
    simp [UInt32.le_of_lt below]
  have later : others.filter (last.number < ·.number) = others :=
    List.filter_eq_self.mpr fun info listed => decide_eq_true (pairs.2.1.1 info listed)
  calc infos.filter (last.number < ·.number)
      = (infos.filter (first ≤ ·.number)).filter (last.number < ·.number) := by
        rw [List.filter_filter]
        refine List.filter_congr fun info _ => ?_
        by_cases above : last.number < info.number
        · simp [above, UInt32.le_trans inside (UInt32.le_of_lt above)]
        · simp [above]
    _ = others := by
        rw [split, List.filter_append, List.filter_cons, earlier, later]
        simp [UInt32.lt_irrefl]

private theorem filter_behind_final {number : UInt32} (final : number = maxVersionNumber) (infos : List VersionInfo) :
    infos.filter (number < ·.number) = [] := by
  rw [List.filter_eq_nil_iff]
  intro info _
  have bound := info.number.toNat_lt
  rw [decide_eq_true_eq, final, UInt32.lt_iff_toNat_lt, toNat_maxVersionNumber]
  omega

private theorem filter_next {number : UInt32} (below : number ≠ maxVersionNumber) (infos : List VersionInfo) :
    infos.filter (number + 1 ≤ ·.number) = infos.filter (number < ·.number) := by
  refine List.filter_congr fun info _ => ?_
  rw [decide_eq_decide, UInt32.le_iff_toNat_le, UInt32.lt_iff_toNat_lt, toNat_add_one below]
  exact Nat.succ_le_iff

private theorem lists_infos (sound : store.Sound) (opened : store.isOpen = true) {model : StoredModel}
    (known : store.contents[modelId]? = some model) (limit : Nat) (first : UInt32) :
    store.Lists modelId limit first (model.infos.filter (first ≤ ·.number)) := by
  have modelSound := sound.model modelId
  rw [model_eq known] at modelSound
  have ordered := modelSound.pairwise_infos
  induction length : (model.infos.filter (first ≤ ·.number)).length using Nat.strong_induction_on
    generalizing first with
  | _ size ih =>
    have listed := perform_listVersions_known sound opened known first limit
    have whole := List.take_append_drop (effectiveLimit limit) (model.infos.filter (first ≤ ·.number))
    rcases List.eq_nil_or_concat' ((model.infos.filter (first ≤ ·.number)).take (effectiveLimit limit))
      with none | ⟨before, last, page⟩
    · rcases List.take_eq_nil_iff.mp none with zero | empty
      · exact absurd zero (Nat.ne_of_gt (effectiveLimit_pos limit))
      · rw [none] at listed
        rw [empty]
        exact .empty listed
    · have ends : ((model.infos.filter (first ≤ ·.number)).take (effectiveLimit limit)).getLast? = some last := by
        rw [page, List.getLast?_concat]
      rw [page, List.append_assoc, List.singleton_append] at whole
      have behind := behind_eq_filter ordered whole.symm
      by_cases final : last.number = maxVersionNumber
      · rw [← behind, filter_behind_final final] at whole
        rw [← whole, ← page]
        exact .last listed ends final
      · have next := filter_next final model.infos
        have shorter : (model.infos.filter (last.number + 1 ≤ ·.number)).length < size := by
          have sizes := congrArg List.length whole
          rw [List.length_append, List.length_cons, length] at sizes
          rw [next, behind]
          omega
        have rest := ih _ shorter (last.number + 1) rfl
        have pages := Lists.more listed ends final rest
        rw [next, behind, List.take_append_drop] at pages
        exact pages

/-- The versions of a model that exists, as they are listed and described. -/
structure Catalogue (store : Store) (modelId : String) (listed : List VersionInfo) : Prop where
  known : store.Knows modelId
  /-- Pages of every size show them, from any number on, -/
  pages : ∀ limit first, store.Lists modelId limit first (listed.filter (first ≤ ·.number))
  /-- each once and in the order of their numbers. -/
  rising : listed.Pairwise fun one other => one.number < other.number
  /-- They are the versions that are described by their numbers. -/
  described : ∀ (number : UInt32) (info : VersionInfo),
    (number ≠ 0 ∧ (store.perform (.versionInfo modelId number)).1 = .ok info) ↔
      info ∈ listed ∧ info.number = number

theorem catalogue_infos (sound : store.Sound) (opened : store.isOpen = true) {model : StoredModel}
    (known : store.contents[modelId]? = some model) : store.Catalogue modelId model.infos := by
  have modelSound := sound.model modelId
  rw [model_eq known] at modelSound
  refine ⟨(knows_iff sound).mpr ⟨opened, model, known⟩, lists_infos sound opened known, modelSound.pairwise_infos, ?_⟩
  intro number info
  constructor
  · rintro ⟨positive, told⟩
    obtain ⟨_, other, version, means, described⟩ := meant_of_info sound (Prod.ext told rfl)
    have numbered := (means.held.described sound).2.1
    have stored := (holds_of_known known).mp means.held
    rw [← numbered, described] at stored
    rw [means.named positive, described] at numbered
    exact ⟨modelSound.mem_infos_iff.mpr ⟨version, stored, described⟩, numbered⟩
  · rintro ⟨member, rfl⟩
    obtain ⟨version, stored, rfl⟩ := modelSound.mem_infos_iff.mp member
    have held := (holds_of_known known).mpr stored
    have positive := held.positive sound
    have means : store.Means modelId version.info.number version.info.number version :=
      ⟨held, fun _ => rfl, fun zero => absurd zero positive⟩
    exact ⟨positive, congrArg Prod.fst (perform_meant sound opened means).1⟩

def deletions (modelId : String) (count : Nat) : List Event :=
  List.replicate count (.call (.deleteVersion modelId 0))

/-- A deletion of the highest version leaves the others, and there is one to be deleted unless there is none at
all. -/
private theorem highest_deleted (sound : store.Sound) (opened : store.isOpen = true) {model : StoredModel}
    (known : store.contents[modelId]? = some model) :
    (store.perform (.deleteVersion modelId 0)).1 =
        (if model.infos = [] then .error (.unknownVersion modelId 0) else .ok ()) ∧
      ∃ next, (store.perform (.deleteVersion modelId 0)).2.contents[modelId]? = some next ∧
        next.infos = model.infos.dropLast := by
  have lasting : Call.deleteVersion modelId 0 ≠ .destroy := nofun
  have served := (perform_served sound opened lasting).1
  revert served
  generalize (store.perform (.deleteVersion modelId 0)).1 = reply
  generalize (store.perform (.deleteVersion modelId 0)).2.contents = models
  intro served
  cases served with
  | asked _ _ question => cases question
  | versionDeleted _ _ other version also found =>
    rw [known] at also
    cases also
    obtain ⟨number, stored, _, greatest⟩ := StoredModel.version_cases found
    have ends := getLast?_toList stored (greatest rfl)
    have numbered := ((holds_of_known known).mpr stored).described sound
    have filled : model.infos ≠ [] := by
      rw [Ne, StoredModel.infos_eq_nil_iff]
      intro empty
      simp [empty] at stored
    rw [if_neg filled, numbered.2.1]
    exact ⟨rfl, _, Std.ExtTreeMap.getElem?_insert_self, StoredModel.infos_erase_last ends⟩
  | versionUnknown _ _ refusal refused =>
    cases lookup_eq_error.mp refused with
    | model unknown =>
      rw [known] at unknown
      cases unknown
    | versions _ _ none =>
      have empty := StoredModel.infos_eq_nil_iff.mpr ((versions_eq_empty_iff known).mpr none)
      rw [if_pos empty]
      exact ⟨rfl, model, known, by rw [empty]; rfl⟩
    | number _ _ _ positive => exact absurd rfl positive

private theorem after_deletions (sound : store.Sound) (opened : store.isOpen = true) {model : StoredModel}
    (known : store.contents[modelId]? = some model) (count : Nat) :
    ∃ left, (store.after (deletions modelId count)).contents[modelId]? = some left ∧
      left.infos = model.infos.take (model.infos.length - count) := by
  induction count generalizing store model with
  | zero => exact ⟨model, known, by rw [Nat.sub_zero, List.take_length]⟩
  | succ count ih =>
    have lasting : Event.call (.deleteVersion modelId 0) ≠ .call .destroy := nofun
    obtain ⟨_, next, found, remaining⟩ := highest_deleted sound opened known
    obtain ⟨left, still, listed⟩ := ih (sound_apply sound _) (isOpen_apply opened sound lasting) found
    refine ⟨left, still, ?_⟩
    rw [listed, remaining, List.dropLast_eq_take, List.length_take, List.take_take]
    congr 1
    omega

/-- The highest version is deleted again and again. -/
structure Dwindles (store : Store) (modelId : String) (listed : List VersionInfo) : Prop where
  /-- Each time the last of the versions goes, and nothing is left in the end, -/
  left : ∀ count, (store.after (deletions modelId count)).Catalogue modelId (listed.take (listed.length - count))
  /-- which is then said. -/
  replied : ∀ count, ((store.after (deletions modelId count)).perform (.deleteVersion modelId 0)).1 =
    if count < listed.length then .ok () else .error (.unknownVersion modelId 0)

private theorem dwindles_infos (sound : store.Sound) (opened : store.isOpen = true) {model : StoredModel}
    (known : store.contents[modelId]? = some model) : store.Dwindles modelId model.infos := by
  have stillSound (count : Nat) := sound_after sound (deletions modelId count)
  have stillOpen (count : Nat) : (store.after (deletions modelId count)).isOpen = true :=
    isOpen_after opened sound fun member => nomatch List.eq_of_mem_replicate member
  constructor
  · intro count
    obtain ⟨left, found, listed⟩ := after_deletions sound opened known count
    rw [← listed]
    exact catalogue_infos (stillSound count) (stillOpen count) found
  · intro count
    obtain ⟨left, found, listed⟩ := after_deletions sound opened known count
    have none : left.infos = [] ↔ ¬count < model.infos.length := by
      rw [listed, List.take_eq_nil_iff, ← List.length_eq_zero_iff]
      omega
    rw [(highest_deleted (stillSound count) (stillOpen count) found).1]
    simp only [none, ite_not]

private theorem refuses_unknown (sound : store.Sound) (unknown : ¬store.Knows modelId) :
    ∃ refusal, (∀ requested, (store.perform (.versionInfo modelId requested)).1 = .error refusal) ∧
      ∀ first limit, (store.perform (.listVersions modelId first limit)).1 = .error refusal := by
  cases opened : store.isOpen with
  | false =>
    refine ⟨.destroyed, fun requested => ?_, fun first limit => ?_⟩
    · have refused : store.perform (.versionInfo modelId requested) = (.error .destroyed, store) :=
        perform_closed opened nofun
      rw [refused]
    · have refused : store.perform (.listVersions modelId first limit) = (.error .destroyed, store) :=
        perform_closed opened nofun
      rw [refused]
  | true =>
    have missing : store.contents[modelId]? = none := by
      rw [knows_iff sound] at unknown
      rw [Option.eq_none_iff_forall_ne_some]
      exact fun model known => unknown ⟨opened, model, known⟩
    refine ⟨.unknownModel modelId, fun requested => ?_, fun first limit => ?_⟩
    · rw [perform_versionInfo sound opened, lookup_eq_error.mpr (.model missing)]
      rfl
    · rw [perform_listVersions sound opened, NestedStore.listVersions, NestedStore.model, missing]
      rfl

/-- In every store that a run leads to, a version is described, fetched and deleted by one rule: a number addresses
the version that has it, and zero the highest one there is, also where a higher one has been deleted. The versions
that numbers address are those that are listed, and deleting the highest one again and again removes them from the
last to the first. -/
theorem versions_addressed (store : Store) (reachable : store.Reachable) (modelId : String) :
    (∀ requested, ∃ outcome, store.Addresses modelId requested outcome) ∧
      (store.Knows modelId → ∃ listed, store.Catalogue modelId listed ∧ store.Dwindles modelId listed) ∧
      (¬store.Knows modelId → ∃ refusal,
        (∀ requested, (store.perform (.versionInfo modelId requested)).1 = .error refusal) ∧
          ∀ first limit, (store.perform (.listVersions modelId first limit)).1 = .error refusal) := by
  have sound := reachable.sound
  refine ⟨fun requested => ?_, fun known => ?_, refuses_unknown sound⟩
  · cases opened : store.isOpen with
    | false => exact ⟨_, addresses_closed sound opened⟩
    | true => exact ⟨_, addresses_open sound opened⟩
  · obtain ⟨opened, model, found⟩ := (knows_iff sound).mp known
    exact ⟨model.infos, catalogue_infos sound opened found, dwindles_infos sound opened found⟩

/-- Of three versions the last has been deleted: zero addresses the second, though a third number has been handed out,
and the third addresses nothing. -/
theorem versions_addressed_below_latest :
    let put : Event := .call (.putVersion "m" ⟨0, ⟨0, 0⟩, false, "", [7], ∅, by decide⟩)
    let store := (Store.new .duckdb).after [put, put, put, .call (.deleteVersion "m" 3)]
    (store.model "m").latest = 3 ∧ (∃ version, store.Addresses "m" 0 (.ok version) ∧ version.info.number = 2) ∧
      store.Addresses "m" 3 (.error (.unknownVersion "m" 3)) ∧
      ∃ listed, listed.length = 2 ∧ store.Dwindles "m" listed := by
  intro put store
  have known : store.Knows "m" := rfl
  obtain ⟨addressed, exist, _⟩ := versions_addressed store ⟨.duckdb, _, rfl⟩ "m"
  refine ⟨by decide +kernel, ?_, ?_, ?_⟩
  · obtain ⟨outcome, addresses⟩ := addressed 0
    have told : (store.perform (.versionInfo "m" 0)).1.toOption.map (·.number) = some 2 := by decide +kernel
    rw [addresses.described] at told
    cases outcome with
    | error refusal => cases told
    | ok version => exact ⟨version, addresses, Option.some.inj told⟩
  · obtain ⟨outcome, addresses⟩ := addressed 3
    have refused : (store.perform (.versionInfo "m" 3)).1 = .error (.unknownVersion "m" 3) := rfl
    rw [addresses.described] at refused
    cases outcome with
    | ok version => cases refused
    | error refusal =>
      cases refused
      exact addresses
  · obtain ⟨listed, _, dwindles⟩ := exist known
    have once : ((store.after (deletions "m" 1)).perform (.deleteVersion "m" 0)).1 = .ok () := rfl
    have twice : ((store.after (deletions "m" 2)).perform (.deleteVersion "m" 0)).1 =
        .error (.unknownVersion "m" 0) := rfl
    rw [dwindles.replied] at once twice
    have more : 1 < listed.length := by
      by_contra fewer
      rw [if_neg fewer] at once
      cases once
    have none : ¬2 < listed.length := by
      intro left
      rw [if_pos left] at twice
      cases twice
    exact ⟨listed, by omega, dwindles⟩

end Store

end ModelVault.Storage
