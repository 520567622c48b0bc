import ModelVault.Proofs.Storage.Runs
import Mathlib.Data.List.Perm.Subperm

/-!
Runs in which models do nothing but go.
-/

namespace ModelVault.Storage

def Event.Deletes (event : Event) : Prop :=
  ∃ modelId, event = .call (.deleteModel modelId)

namespace Store

variable {store whole : Store}

/-- All models of the store are models of another, as they are there. -/
def PartOf (store whole : Store) : Prop :=
  ∀ (modelId : String) (model : StoredModel), store.contents[modelId]? = some model →
    whole.contents[modelId]? = some model

theorem PartOf.refl (store : Store) : store.PartOf store :=
  fun _ _ found => found

theorem PartOf.trans {between : Store} (first : store.PartOf between) (second : between.PartOf whole) :
    store.PartOf whole :=
  fun modelId model found => second modelId model (first modelId model found)

theorem PartOf.mem (part : store.PartOf whole) {modelId : String} (present : modelId ∈ store.contents) :
    modelId ∈ whole.contents := by
  rw [Std.ExtTreeMap.mem_iff_isSome_getElem?, Option.isSome_iff_exists] at present ⊢
  obtain ⟨model, found⟩ := present
  exact ⟨model, part modelId model found⟩

theorem partOf_apply (sound : store.Sound) {event : Event} (deletes : event.Deletes) :
    (event.apply store).PartOf store := by
  obtain ⟨target, rfl⟩ := deletes
  rcases apply_cases sound (.call (.deleteModel target)) with ⟨same, _⟩ | ⟨final, _⟩ | ⟨call, same, _, served⟩
  · intro modelId model found
    rwa [same] at found
  · cases final
  · cases same
    revert served
    generalize contents : (Event.apply (.call (.deleteModel target)) store).contents = models
    generalize (store.perform (.deleteModel target)).1 = reply
    intro served modelId model found
    rw [contents] at found
    cases served with
    | asked _ _ question => cases question
    | modelDeleted _ deleted known =>
      rw [Std.ExtTreeMap.getElem?_erase] at found
      split at found
      · cases found
      · exact found
    | modelUnknown _ unknown => exact found

/-- Deletions leave the other models. -/
theorem partOf_after (sound : store.Sound) {events : List Event} (deletes : ∀ event ∈ events, event.Deletes) :
    (store.after events).PartOf store := by
  induction events generalizing store with
  | nil => exact .refl store
  | cons event rest ih =>
    obtain ⟨now, later⟩ := List.forall_mem_cons.mp deletes
    exact (ih (sound_apply sound event) later).trans (partOf_apply sound now)

theorem pairwise_keys (store : Store) : store.contents.keys.Pairwise (· < ·) := by
  refine Std.ExtTreeMap.ordered_keys.imp ?_
  intro first second below
  exact compareOfLessAndEq_eq_lt.mp below

/-- The models of a part are listed as in the whole, but for those that are missing. -/
theorem PartOf.sublist_keys (part : store.PartOf whole) : store.contents.keys.Sublist whole.contents.keys := by
  have contained : store.contents.keys ⊆ whole.contents.keys :=
    fun modelId member => Std.ExtTreeMap.mem_keys.mpr (part.mem (Std.ExtTreeMap.mem_keys.mp member))
  obtain ⟨listed, same, sublist⟩ := Std.ExtTreeMap.nodup_keys.subperm contained
  have equal := same.eq_of_pairwise (fun _ _ _ _ below above => absurd above (String.lt_asymm below))
    ((pairwise_keys whole).sublist sublist) (pairwise_keys store)
  rwa [equal] at sublist

theorem PartOf.size_le (part : store.PartOf whole) : store.contents.size ≤ whole.contents.size := by
  rw [← Std.ExtTreeMap.length_keys, ← Std.ExtTreeMap.length_keys]
  exact part.sublist_keys.length_le

/-- What is left of a list begins like the list, for as long as nothing is missing. -/
private theorem take_of_sublist {left all : List String} (sublist : left.Sublist all) (nodup : all.Nodup) {count : Nat}
    (kept : ∀ modelId ∈ all.take count, modelId ∈ left) : left.take count = all.take count := by
  induction sublist generalizing count with
  | slnil => rfl
  | @cons left rest first sublist ih =>
    cases count with
    | zero => rfl
    | succ count => exact absurd (sublist.subset (kept first (by simp))) (List.nodup_cons.mp nodup).1
  | @cons_cons left rest first sublist ih =>
    cases count with
    | zero => rfl
    | succ count =>
      obtain ⟨fresh, others⟩ := List.nodup_cons.mp nodup
      rw [List.take_succ_cons, List.take_succ_cons]
      refine congrArg (first :: ·) (ih others fun modelId member => ?_)
      have other : modelId ≠ first := fun same => fresh (same ▸ List.mem_of_mem_take member)
      exact (List.mem_cons.mp (kept modelId (List.mem_cons_of_mem first member))).resolve_left other

theorem PartOf.take_keys (part : store.PartOf whole) {count : Nat}
    (kept : ∀ modelId ∈ whole.contents.keys.take count, modelId ∈ store.contents) :
    store.contents.keys.take count = whole.contents.keys.take count :=
  take_of_sublist part.sublist_keys Std.ExtTreeMap.nodup_keys
    fun modelId member => Std.ExtTreeMap.mem_keys.mpr (kept modelId member)

end Store

end ModelVault.Storage
