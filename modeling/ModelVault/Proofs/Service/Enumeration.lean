import ModelVault.Proofs.Service.VersionPages
import ModelVault.Proofs.Text.ByteOrder
import Mathlib.Data.List.Forall2

/-!
Listings whose handles stand for offsets: all models, the models asked for by name, and the versions asked for by
number. All three cut pages from a list, and following their handles gives that list.
-/

namespace ModelVault

open Storage (Store)

/-- Pages are asked for with the handle that came with the page before, until one is empty. -/
inductive Follows {α : Type} (fetched : String → List α → String → Prop) : String → List α → Prop where
  | last {handle next : String} (none : fetched handle [] next) : Follows fetched handle []
  | page {handle next : String} {page others : List α} (listed : fetched handle page next) (more : page ≠ [])
    (rest : Follows fetched next others) : Follows fetched handle (page ++ others)

/-- A listing gives these entries. -/
structure Enumerates {α : Type} (field : String) (fetched : String → List α → String → Prop) (entries : List α) :
    Prop where
  /-- Following the handles from the empty one on comes to an end, and to these entries. -/
  whole : ∀ listed, Follows fetched "" listed ↔ listed = entries
  /-- Every handle that is accepted is answered with a page of the entries from an offset on, which is empty only at the
  end or behind it. What comes next is the offset behind the page, which 64 bits can count, in a handle that is
  accepted again. -/
  page : ∀ handle offset, Handle.parse .bits64 field handle = .ok offset → ∃ page,
    fetched handle page (Handle.format (offset + page.length)) ∧ page <+: entries.drop offset ∧
      (page = [] ↔ entries.length ≤ offset) ∧ offset + page.length < UInt64.size ∧
      Handle.parse .bits64 field (Handle.format (offset + page.length)) = .ok (offset + page.length)

section Cut

variable {α : Type} {field : String} {fetched : String → List α → String → Prop} {entries : List α} {size : Nat}

/-- Pages of one size are cut from a list, and nothing else is fetched. -/
structure CutFrom (field : String) (fetched : String → List α → String → Prop) (entries : List α) (size : Nat) :
    Prop where
  positive : 0 < size
  addressable : entries.length < UInt64.size
  cut : ∀ handle offset, Handle.parse .bits64 field handle = .ok offset →
    fetched handle ((entries.drop offset).take size) (Handle.format (offset + ((entries.drop offset).take size).length))
  unique : ∀ {handle page other next otherNext}, fetched handle page next → fetched handle other otherNext →
    page = other ∧ next = otherNext

namespace CutFrom

variable (cuts : CutFrom field fetched entries size)

include cuts

theorem page_eq_nil_iff (offset : Nat) : (entries.drop offset).take size = [] ↔ entries.length ≤ offset := by
  have positive := cuts.positive
  rw [List.take_eq_nil_iff, List.drop_eq_nil_iff]
  omega

theorem next_lt {handle : String} {offset : Nat} (parsed : Handle.parse .bits64 field handle = .ok offset) :
    offset + ((entries.drop offset).take size).length < UInt64.size := by
  have small := cuts.addressable
  have accepted : offset < UInt64.size := Handle.lt_of_parse parsed
  rw [List.length_take, List.length_drop]
  omega

private theorem follows_drop {handle : String} {offset : Nat}
    (parsed : Handle.parse .bits64 field handle = .ok offset) : Follows fetched handle (entries.drop offset) := by
  induction left : entries.length - offset using Nat.strong_induction_on generalizing handle offset with
  | _ left ih =>
    have listed := cuts.cut handle offset parsed
    by_cases none : (entries.drop offset).take size = []
    · rw [none] at listed
      rw [List.drop_eq_nil_of_le ((cuts.page_eq_nil_iff offset).mp none)]
      exact .last listed
    · have more := mt (cuts.page_eq_nil_iff offset).mpr none
      have some := List.length_pos_iff.mpr none
      have next := Handle.parse_format .bits64 field (cuts.next_lt parsed)
      have rest := ih (entries.length - (offset + ((entries.drop offset).take size).length)) (by omega) next rfl
      rw [← Service.take_append_drop_length offset size]
      exact .page listed none rest

private theorem eq_drop_of_follows {handle : String} {listed : List α} (follows : Follows fetched handle listed)
    {offset : Nat} (parsed : Handle.parse .bits64 field handle = .ok offset) : listed = entries.drop offset := by
  induction follows generalizing offset with
  | last none =>
    have empty := (cuts.unique none (cuts.cut _ offset parsed)).1
    rw [List.drop_eq_nil_of_le ((cuts.page_eq_nil_iff offset).mp empty.symm)]
  | page listed more rest ih =>
    obtain ⟨rfl, rfl⟩ := cuts.unique listed (cuts.cut _ offset parsed)
    rw [ih (Handle.parse_format .bits64 field (cuts.next_lt parsed)), Service.take_append_drop_length]

/-- A list that pages are cut from is what the listing gives. -/
theorem enumerates : Enumerates field fetched entries where
  whole listed := by
    have start : Handle.parse .bits64 field "" = .ok 0 := rfl
    constructor
    · exact fun follows => cuts.eq_drop_of_follows follows start
    · rintro rfl
      exact cuts.follows_drop start
  page handle offset parsed := ⟨_, cuts.cut handle offset parsed, List.take_prefix _ _, cuts.page_eq_nil_iff offset,
    cuts.next_lt parsed, Handle.parse_format .bits64 field (cuts.next_lt parsed)⟩

end CutFrom

end Cut

namespace Service

variable {store : Store} {modelId : String}

/-- What is prepared for a request for models whose handle stands for an offset. -/
theorem prepare_models {service : Service} {message : Wire.ModelsRequest} {offset : Nat} (now : Moment)
    (fits : (Request.models message).checkSize service.maxMessageSize = .ok ())
    (parsed : Handle.parse .bits64 "model_handle" message.handle = .ok offset) :
    service.prepare now (.models message) = .ready
      (if message.modelIds.isEmpty then allModels offset message.count.toNat
      else someModels message.modelIds offset message.count.toNat) := by
  simp only [prepare, fits, withPosition, parsed]

def TellsModels (store : Store) (modelIds : List String) (infos : List ModelInfo) : Prop :=
  List.Forall₂ (fun modelId info => store.perform (.modelInfo modelId) = (.ok info, store)) modelIds infos

/-- What the store says of versions of a model, one by one; zero asks for the highest. -/
def TellsVersions (store : Store) (modelId : String) (numbers : List UInt32) (infos : List VersionInfo) : Prop :=
  List.Forall₂ (fun number info => store.perform (.versionInfo modelId number) = (.ok info, store)) numbers infos

theorem yields_namedModels {modelIds : List String} {infos : List ModelInfo}
    (told : TellsModels store modelIds infos) : Yields store (namedModels modelIds) (infos.map (·.entry)) := by
  induction told with
  | nil => exact yields_pure []
  | cons here _ ih => exact (yields_ask here _).bind (ih.bind (yields_pure _))

theorem yields_remainingModels {modelIds : List String} {infos : List ModelInfo}
    (told : TellsModels store modelIds infos) : Yields store (remainingModels modelIds) (infos.map (·.entry)) := by
  induction told with
  | nil => exact yields_pure []
  | cons here _ ih => exact (yields_lift here).bind (ih.bind (yields_pure _))

theorem yields_namedVersions {numbers : List UInt32} {infos : List VersionInfo}
    (told : TellsVersions store modelId numbers infos) :
    Yields store (namedVersions modelId numbers) (infos.map (·.entry)) := by
  induction told with
  | nil => exact yields_pure []
  | cons here _ ih => exact (yields_ask here _).bind (ih.bind (yields_pure _))

def everyModel (store : Store) : List ModelInfo :=
  store.contents.keys.map fun modelId => (store.model modelId).info modelId

theorem map_id_everyModel (store : Store) : (everyModel store).map (·.id) = store.contents.keys := by
  rw [everyModel, List.map_map]
  exact List.map_id'' (fun _ => rfl) _

private theorem perform_modelInfo_known (sound : store.Sound) (known : store.Knows modelId) :
    store.perform (.modelInfo modelId) = (.ok ((store.model modelId).info modelId), store) := by
  obtain ⟨opened, model, found⟩ := (Store.knows_iff sound).mp known
  rw [Store.perform_modelInfo sound opened, Storage.NestedStore.model, found, Store.model_eq found]
  rfl

theorem tellsModels_of_known (sound : store.Sound) {modelIds : List String}
    (known : ∀ modelId ∈ modelIds, store.Knows modelId) :
    TellsModels store modelIds (modelIds.map fun modelId => (store.model modelId).info modelId) := by
  rw [TellsModels, List.forall₂_map_right_iff, List.forall₂_same]
  exact fun modelId member => perform_modelInfo_known sound (known modelId member)

private theorem exists_told (sound : store.Sound) (opened : store.isOpen = true)
    (some : ∃ number version, store.Holds modelId number version) {number : UInt32}
    (held : number = 0 ∨ ∃ version, store.Holds modelId number version) :
    ∃ info, store.perform (.versionInfo modelId number) = (.ok info, store) := by
  have addresses : store.Addresses modelId number _ := Store.addresses_open sound opened
  obtain ⟨other, otherVersion, some⟩ := some
  have known : store.Knows modelId := by
    obtain ⟨model, found, _⟩ := some
    exact (Store.knows_iff sound).mpr ⟨opened, model, found⟩
  have meant : ∃ number' version, store.Holds modelId number' version ∧ (number = 0 ∨ number' = number) := by
    rcases held with zero | ⟨version, held⟩
    · exact ⟨other, otherVersion, some, .inl zero⟩
    · exact ⟨number, version, held, .inr rfl⟩
  obtain ⟨version, found⟩ := addresses.answered.mpr ⟨known, meant⟩
  exact ⟨version.info, by rw [addresses.described, found]; rfl⟩

theorem tellsVersions_of_held (sound : store.Sound) (opened : store.isOpen = true)
    (some : ∃ number version, store.Holds modelId number version) {numbers : List UInt32}
    (held : ∀ number ∈ numbers, number = 0 ∨ ∃ version, store.Holds modelId number version) :
    ∃ infos, TellsVersions store modelId numbers infos := by
  induction numbers with
  | nil => exact ⟨[], .nil⟩
  | cons number rest ih =>
    obtain ⟨here, others⟩ := List.forall_mem_cons.mp held
    obtain ⟨info, told⟩ := exists_told sound opened some here
    obtain ⟨infos, rest⟩ := ih others
    exact ⟨info :: infos, .cons told rest⟩

/-- All models that a store has, as it tells of them. -/
structure AllModels (store : Store) (infos : List ModelInfo) : Prop where
  /-- None is missing and there is no other. -/
  complete : ∀ modelId, modelId ∈ infos.map (·.id) ↔ store.Knows modelId
  /-- They come in the order of the octets of their identifiers, none of them twice. -/
  ordered : (infos.map (·.id)).Pairwise fun one other => Bytes.ofText one < Bytes.ofText other
  told : TellsModels store (infos.map (·.id)) infos

theorem allModels_everyModel (sound : store.Sound) (opened : store.isOpen = true) :
    AllModels store (everyModel store) := by
  have complete : ∀ modelId, modelId ∈ store.contents.keys ↔ store.Knows modelId := by
    intro modelId
    rw [Store.knows_iff sound, Std.ExtTreeMap.mem_keys, Std.ExtTreeMap.mem_iff_isSome_getElem?,
      Option.isSome_iff_exists]
    exact (and_iff_right opened).symm
  constructor <;> rw [map_id_everyModel]
  · exact complete
  · exact (Store.pairwise_keys store).imp Bytes.ofText_lt_ofText.mpr
  · exact tellsModels_of_known sound fun modelId member => (complete modelId).mp member

/-- Models are asked for page by page; without identifiers, all of them. -/
def ModelsFetched (store : Store) (modelIds : List String) (count : UInt32) (handle : String)
    (page : List Wire.ModelEntry) (next : String) : Prop :=
  store.Answers (.models ⟨modelIds, count, handle⟩) (.models ⟨page, next⟩)

/-- Versions are asked for by number, page by page. -/
def VersionsFetched (store : Store) (modelId : String) (numbers : List UInt32) (count : UInt32) (handle : String)
    (page : List Wire.VersionEntry) (next : String) : Prop :=
  store.Answers (.versions ⟨modelId, numbers, count, handle⟩) (.versions ⟨page, next⟩)

private theorem ModelsFetched.unique {modelIds : List String} {count : UInt32} {handle next otherNext : String}
    {page other : List Wire.ModelEntry} (fetched : ModelsFetched store modelIds count handle page next)
    (also : ModelsFetched store modelIds count handle other otherNext) : page = other ∧ next = otherNext := by
  cases Store.Answers.unique fetched also
  exact ⟨rfl, rfl⟩

private theorem VersionsFetched.unique {numbers : List UInt32} {count : UInt32} {handle next otherNext : String}
    {page other : List Wire.VersionEntry} (fetched : VersionsFetched store modelId numbers count handle page next)
    (also : VersionsFetched store modelId numbers count handle other otherNext) : page = other ∧ next = otherNext := by
  cases Store.Answers.unique fetched also
  exact ⟨rfl, rfl⟩

/-- Pages of all models are cut from what the store says of them in the order of its listing. -/
theorem cutFrom_allModels (sound : store.Sound) (opened : store.isOpen = true)
    (counted : store.contents.size ≤ maxInt64.toNat) {infos : List ModelInfo}
    (told : TellsModels store store.contents.keys infos) (count : UInt32) :
    CutFrom "model_handle" (ModelsFetched store [] count) (infos.map (·.entry)) (effectiveLimit count.toNat) where
  positive := effectiveLimit_pos count.toNat
  addressable := by
    rw [List.length_map, ← told.length_eq, Std.ExtTreeMap.length_keys]
    exact Nat.lt_of_le_of_lt counted (by decide)
  cut handle offset parsed := by
    refine Store.answers_of_yields (fun service now fits => prepare_models now fits parsed) ?_
    have listed : store.perform (.listModels offset count.toNat) = _ :=
      Store.perform_listModels sound opened count.toNat (.inr counted)
    have page := List.forall₂_take (effectiveLimit count.toNat) (List.forall₂_drop offset told)
    rw [← List.map_drop, ← List.map_take, List.length_map, ← page.length_eq]
    exact (yields_ask listed _).bind ((yields_remainingModels page).bind (yields_pure _))
  unique := ModelsFetched.unique

/-- Pages of what was asked for one by one have as many entries as were asked for, or all for zero. -/
def requestedSize (length count : Nat) : Nat :=
  if count = 0 then length + 1 else count

private theorem requestedSize_pos (length count : Nat) : 0 < requestedSize length count := by
  rw [requestedSize]
  split <;> omega

private theorem page_eq_take {α : Type} (items : List α) (offset count : Nat) :
    Handle.page items offset count = (items.drop offset).take (requestedSize items.length count) := by
  rw [Handle.page, requestedSize]
  split
  · exact (List.take_of_length_le (by rw [List.length_drop]; omega)).symm
  · rfl

/-- Pages of the models asked for by name are cut from what the store says of them in the order of the request. -/
theorem cutFrom_someModels {modelIds : List String} (some : modelIds ≠ [])
    (addressable : modelIds.length < UInt64.size) {infos : List ModelInfo} (told : TellsModels store modelIds infos)
    (count : UInt32) : CutFrom "model_handle" (ModelsFetched store modelIds count) (infos.map (·.entry))
      (requestedSize modelIds.length count.toNat) where
  positive := requestedSize_pos _ _
  addressable := by rwa [List.length_map, ← told.length_eq]
  cut handle offset parsed := by
    refine Store.answers_of_yields (fun service now fits => prepare_models now fits parsed) ?_
    have page := List.forall₂_take (requestedSize modelIds.length count.toNat) (List.forall₂_drop offset told)
    rw [if_neg (by simpa using some), ← List.map_drop, ← List.map_take, List.length_map, ← page.length_eq,
      ← page_eq_take]
    rw [← page_eq_take] at page
    exact (yields_namedModels page).bind (yields_pure _)
  unique := ModelsFetched.unique

/-- Pages of the versions asked for by number are cut from what the store says of them in the order of the request. -/
theorem cutFrom_someVersions {numbers : List UInt32} (some : numbers ≠ []) (addressable : numbers.length < UInt64.size)
    {infos : List VersionInfo} (told : TellsVersions store modelId numbers infos) (count : UInt32) :
    CutFrom "version_handle" (VersionsFetched store modelId numbers count) (infos.map (·.entry))
      (requestedSize numbers.length count.toNat) where
  positive := requestedSize_pos _ _
  addressable := by rwa [List.length_map, ← told.length_eq]
  cut handle offset parsed := by
    refine Store.answers_of_yields (fun service now fits => prepare_versions now fits parsed) ?_
    have page := List.forall₂_take (requestedSize numbers.length count.toNat) (List.forall₂_drop offset told)
    rw [if_neg (by simpa using some), ← List.map_drop, ← List.map_take, List.length_map, ← page.length_eq,
      ← page_eq_take]
    rw [← page_eq_take] at page
    exact (yields_namedVersions page).bind (yields_pure _)
  unique := VersionsFetched.unique

end Service

end ModelVault
