import ModelVault.Proofs.Client.Collecting
import ModelVault.Proofs.Service.Paging

/-!
The listing of all models, page by page, while others delete models. Handles are offsets into the listing as
it is by then, so each deletion of a model that was listed moves the cursor over one that was not.
-/

namespace ModelVault.Client

open Storage (Store)

variable {service : Service} {now : Moment} {handle : String} {count : UInt32} {shared after : SharedStore}
  {offset : Nat}

private theorem modelPage_of_fetched (quiet : shared.Quiet) (counted : shared.store.contents.size ≤ maxInt64.toNat)
    {page : List Wire.ModelEntry} {next : String}
    (fetched : (models [] count handle).run.run? (service.serve now) shared = (some (.ok (page, next)), after)) :
    ∃ offset, Handle.parse .bits64 "model_handle" handle = .ok offset ∧
      next = Handle.format (offset + (Service.modelsFrom shared.met offset count.toNat).length) ∧
      Service.Found shared.met (Service.modelsFrom shared.met offset count.toNat) page after.store ∧ after.Quiet ∧
      after.listings = shared.listings ++ [Service.modelsFrom shared.met offset count.toNat] := by
  obtain ⟨reply, between, asked, read⟩ := run?_bind_ok fetched
  obtain ⟨offset, entries, parsed, rfl, found⟩ := Service.serve_models quiet counted (answered_of_ask asked)
  cases read
  exact ⟨offset, parsed, rfl, found⟩

/-- A handle stands for an offset that the tables can count, as they can the models. -/
private def StandsForOffset (handle : String) (shared : SharedStore) (offset : Nat) : Prop :=
  shared.Quiet ∧ shared.store.contents.size ≤ maxInt64.toNat ∧
    Handle.parse .bits64 "model_handle" handle = .ok offset ∧ offset ≤ maxInt64.toNat

private theorem modelsFrom_append (store : Store) (offset count : Nat) :
    Service.modelsFrom store offset count ++
      store.contents.keys.drop (offset + (Service.modelsFrom store offset count).length) =
        store.contents.keys.drop offset :=
  Service.take_append_drop_length offset (effectiveLimit count)

private theorem offset_le_size {store : Store} {offset count : Nat}
    (more : Service.modelsFrom store offset count ≠ []) :
    offset + (Service.modelsFrom store offset count).length ≤ store.contents.size := by
  have whole := congrArg List.length (modelsFrom_append store offset count)
  have some := List.length_pos_iff.mpr more
  rw [List.length_append, List.length_drop, List.length_drop, Std.ExtTreeMap.length_keys] at whole
  omega

private theorem size_le_offset {store : Store} {offset count : Nat}
    (none : Service.modelsFrom store offset count = []) : store.contents.size ≤ offset := by
  rcases List.take_eq_nil_iff.mp none with zero | empty
  · exact absurd zero (Nat.ne_of_gt (effectiveLimit_pos count))
  · rw [← Std.ExtTreeMap.length_keys]
    exact List.drop_eq_nil_iff.mp empty

/-- The models before an offset are those that come before a certain one, and are there until the end. -/
private def Behind (store final : Store) (modelId : String) (offset : Nat) : Prop :=
  ∀ other ∈ store.contents.keys.take offset, other < modelId ∧ other ∈ final.contents

private theorem Behind.of_part {store fewer final : Store} {modelId : String}
    (behind : Behind store final modelId offset) (part : fewer.PartOf store)
    (kept : ∀ other ∈ store.contents.keys.take offset, other ∈ fewer.contents) :
    Behind fewer final modelId offset := by
  rw [Behind, part.take_keys kept]
  exact behind

/-- A model that comes behind an offset is on the page there. Else the page lists others before it, and it comes
behind the next offset as well if none of these are gone. -/
private theorem Behind.next {store final : Store} {modelId : String} (behind : Behind store final modelId offset)
    (present : modelId ∈ store.contents) (count : Nat)
    (kept : ∀ other ∈ Service.modelsFrom store offset count, other < modelId → other ∈ final.contents) :
    modelId ∈ Service.modelsFrom store offset count ∨
      (∃ other ∈ Service.modelsFrom store offset count, other < modelId) ∧
        Behind store final modelId (offset + (Service.modelsFrom store offset count).length) := by
  have whole := List.take_append_drop offset store.contents.keys
  rw [← modelsFrom_append store offset count] at whole
  have listed := Std.ExtTreeMap.mem_keys.mpr present
  rw [← whole, List.mem_append, List.mem_append] at listed
  rcases listed with early | here | later
  · exact absurd (behind modelId early).1 (String.lt_irrefl modelId)
  · exact .inl here
  · have ordered := Store.pairwise_keys store
    rw [← whole, List.pairwise_append, List.pairwise_append] at ordered
    have before := fun other member => ordered.2.1.2.2 other member modelId later
    refine .inr ⟨?_, ?_⟩
    · rcases page : Service.modelsFrom store offset count with _ | ⟨first, rest⟩
      · rw [page, List.length_nil, Nat.add_zero, List.drop_eq_nil_of_le] at later
        · cases later
        · rw [Std.ExtTreeMap.length_keys]
          exact size_le_offset page
      · have listed : first ∈ Service.modelsFrom store offset count := page ▸ List.mem_cons_self
        exact ⟨first, List.mem_cons_self, before first listed⟩
    · intro other member
      rw [List.take_add, ← modelsFrom_append store offset count, List.take_left, List.mem_append] at member
      rcases member with early | here
      · exact behind other early
      · exact ⟨before other here, kept other here (before other here)⟩

private theorem nextOffset_of_fetched (here : StandsForOffset handle shared offset) {page : List Wire.ModelEntry}
    {next : String}
    (fetched : (models [] count handle).run.run? (service.serve now) shared = (some (.ok (page, next)), after))
    (more : page ≠ []) :
    offset < offset + (Service.modelsFrom shared.met offset count.toNat).length ∧
      StandsForOffset next after (offset + (Service.modelsFrom shared.met offset count.toNat).length) := by
  obtain ⟨quiet, counted, parsed, _⟩ := here
  obtain ⟨_, same, rfl, found, stillQuiet, _⟩ := modelPage_of_fetched quiet counted fetched
  rw [parsed] at same
  cases same
  have listed : Service.modelsFrom shared.met offset count.toNat ≠ [] := by
    intro none
    have sublist := found.sublist
    rw [none] at sublist
    exact more (List.map_eq_nil_iff.mp (List.sublist_nil.mp sublist))
  have some := List.length_pos_iff.mpr listed
  have fewer := quiet.met.size_le
  have bounded := offset_le_size listed
  refine ⟨by omega, stillQuiet, ?_, Handle.parse_format .bits64 _ ?_, by omega⟩
  · exact Nat.le_trans found.part.size_le (by omega)
  · exact Nat.lt_of_le_of_lt (Nat.le_trans bounded (Nat.le_trans fewer counted)) (by decide)

private theorem models_rise (service : Service) (now : Moment) (count : UInt32) :
    Rises (models [] count) (service.serve now) StandsForOffset maxInt64.toNat where
  bounded here := here.2.2.2
  next here fetched more := ⟨_, nextOffset_of_fetched here fetched more⟩

/-- What the pages from an offset on list and hold. -/
private structure PagesFrom (shared after : SharedStore) (offset : Nat) (entries : List Wire.ModelEntry)
    (lists : List (List String)) : Prop where
  listings : after.listings = shared.listings ++ lists
  listed : lists.flatten.Sublist (shared.store.contents.keys.drop offset)
  sublist : (entries.map (·.modelId)).Sublist lists.flatten
  entry : ∀ entry ∈ entries, ∃ model, shared.store.contents[entry.modelId]? = some model ∧
    (model.info entry.modelId).entry = entry
  gone : ∀ modelId ∈ lists.flatten, modelId ∉ entries.map (·.modelId) → modelId ∉ after.store.contents
  part : after.store.PartOf shared.store
  /-- A model that comes behind the offset is listed, unless one that is listed before it is gone. -/
  reached : ∀ modelId ∈ after.store.contents, Behind shared.store after.store modelId offset →
    (∀ other ∈ lists.flatten, other < modelId → other ∈ after.store.contents) → modelId ∈ lists.flatten
  /-- A page that lists nothing is behind the last model. -/
  last : [] ∈ lists → after.store.contents.size ≤ offset + lists.flatten.length

namespace PagesFrom

variable {between : SharedStore} {page others : List Wire.ModelEntry} {lists : List (List String)} {count : Nat}
  (met : shared.met.PartOf shared.store)

include met

private theorem single
    (found : Service.Found shared.met (Service.modelsFrom shared.met offset count) [] after.store)
    (listings : after.listings = shared.listings ++ [Service.modelsFrom shared.met offset count]) :
    PagesFrom shared after offset [] [Service.modelsFrom shared.met offset count] where
  listings := listings
  listed := by
    rw [List.flatten_singleton]
    exact (List.take_sublist _ _).trans (met.sublist_keys.drop offset)
  sublist := List.nil_sublist _
  entry entry member := by cases member
  gone := by
    rw [List.flatten_singleton]
    exact found.gone
  part := found.part.trans met
  reached := by
    rw [List.flatten_singleton]
    intro modelId present behind kept
    have still := behind.of_part met fun other member => found.part.mem (behind other member).2
    rcases still.next (found.part.mem present) _ kept with listed | ⟨⟨other, listed, before⟩, _⟩
    · exact listed
    · exact absurd (kept other listed before) (found.gone other listed List.not_mem_nil)
  last none := by
    have fewer := found.part.size_le
    have reached := size_le_offset (List.mem_singleton.mp none).symm
    omega

private theorem cons
    (found : Service.Found shared.met (Service.modelsFrom shared.met offset count) page between.store)
    (listings : between.listings = shared.listings ++ [Service.modelsFrom shared.met offset count])
    (rest : PagesFrom between after (offset + (Service.modelsFrom shared.met offset count).length) others lists) :
    PagesFrom shared after offset (page ++ others) (Service.modelsFrom shared.met offset count :: lists) where
  listings := by rw [rest.listings, listings, List.append_assoc, List.singleton_append]
  listed := by
    rw [List.flatten_cons]
    refine List.Sublist.trans ?_ (met.sublist_keys.drop offset)
    rw [← modelsFrom_append]
    exact (List.Sublist.refl _).append (rest.listed.trans (found.part.sublist_keys.drop _))
  sublist := by
    rw [List.map_append, List.flatten_cons]
    exact found.sublist.append rest.sublist
  entry entry member := by
    rcases List.mem_append.mp member with here | there
    · obtain ⟨model, known, told⟩ := found.entry entry here
      exact ⟨model, met _ model known, told⟩
    · obtain ⟨model, known, told⟩ := rest.entry entry there
      exact ⟨model, found.part.trans met _ model known, told⟩
  gone modelId member missing := by
    rw [List.map_append, List.mem_append, not_or] at missing
    rw [List.flatten_cons, List.mem_append] at member
    rcases member with here | there
    · exact mt rest.part.mem (found.gone modelId here missing.1)
    · exact rest.gone modelId there missing.2
  part := rest.part.trans (found.part.trans met)
  reached := by
    rw [List.flatten_cons]
    intro modelId present behind kept
    obtain ⟨keptHere, keptThere⟩ := List.forall_mem_append.mp kept
    -- What is there at the end is there whenever the store is called.
    have earlier := rest.part.trans found.part
    have still := behind.of_part met fun other member => earlier.mem (behind other member).2
    rcases still.next (earlier.mem present) _ keptHere with here | ⟨_, next⟩
    · exact List.mem_append_left _ here
    · have later := next.of_part found.part fun other member => rest.part.mem (next other member).2
      exact List.mem_append_right _ (rest.reached modelId present later keptThere)
  last none := by
    rw [List.flatten_cons, List.length_append]
    rcases List.mem_cons.mp none with here | there
    · have fewer := (rest.part.trans found.part).size_le
      have reached := size_le_offset here.symm
      omega
    · have fewer := rest.last there
      omega

end PagesFrom

private theorem modelPages_of_collects {entries : List Wire.ModelEntry}
    (collects : Collects (models [] count) (service.serve now) handle shared entries after)
    (here : StandsForOffset handle shared offset) : ∃ lists, PagesFrom shared after offset entries lists := by
  induction collects generalizing offset with
  | last fetched =>
    obtain ⟨_, same, _, found, _, listings⟩ := modelPage_of_fetched here.1 here.2.1 fetched
    rw [here.2.2.1] at same
    cases same
    exact ⟨_, PagesFrom.single here.1.met found listings⟩
  | page fetched more rest ih =>
    obtain ⟨_, same, _, found, _, listings⟩ := modelPage_of_fetched here.1 here.2.1 fetched
    rw [here.2.2.1] at same
    cases same
    obtain ⟨lists, others⟩ := ih (nextOffset_of_fetched here fetched more).2
    exact ⟨_, PagesFrom.cons here.1.met found listings others⟩

private theorem length_own_le {first second : List String} (nodup : first.Nodup) (otherNodup : second.Nodup)
    (shorter : first.length ≤ second.length) :
    (first.filter (· ∉ second)).length ≤ (second.filter (· ∉ first)).length := by
  have common : (first.filter (· ∈ second)).length = (second.filter (· ∈ first)).length := by
    apply List.Perm.length_eq
    rw [List.perm_ext_iff_of_nodup (nodup.filter _) (otherNodup.filter _)]
    intro modelId
    simp [and_comm]
  have parts := first.length_eq_length_filter_add (· ∈ second)
  have otherParts := second.length_eq_length_filter_add (· ∈ first)
  simp only [← decide_not] at parts otherParts
  omega

/-- What a listing of all models comes to while others delete models, told by the identifiers that its pages have
listed. -/
structure ListsModels (store : Store) (entries : List Wire.ModelEntry) (after : SharedStore) : Prop where
  /-- The identifiers rise: no model is listed twice. -/
  ordered : (entries.map (·.modelId)).Pairwise (· < ·)
  /-- An entry is that of a model which was there from the start. -/
  entry : ∀ entry ∈ entries, ∃ model, store.contents[entry.modelId]? = some model ∧
    (model.info entry.modelId).entry = entry
  /-- A model that is left is listed once, unless one that a page listed before it is deleted. -/
  complete : ∀ modelId ∈ after.store.contents,
    (∀ listed ∈ after.listings.flatten, listed < modelId → listed ∈ after.store.contents) →
    (entries.map (·.modelId)).count modelId = 1
  /-- If a page has listed nothing, there are missing at most as many of those that are left as of those that
  were listed have been deleted. -/
  missing : [] ∈ after.listings →
    (after.store.contents.keys.filter (· ∉ entries.map (·.modelId))).length ≤
      (after.listings.flatten.filter (· ∉ after.store.contents)).length

/-- For every size of the pages and whichever models others delete before each call of the store, models are
listed in order, none of them twice, and none is missing unless others that were listed before it are deleted. The
store has no more models than its tables can count. -/
theorem lists_models (service : Service) (now : Moment) (pageSize : UInt32) (store : Store)
    (turns : List (List Storage.Event)) (reachable : store.Reachable)
    (counted : store.contents.size ≤ maxInt64.toNat)
    (deletions : ∀ turn ∈ turns, ∀ event ∈ turn, event.Deletes) {entries : List Wire.ModelEntry}
    {after : SharedStore}
    (done : (listModels pageSize).run.run? (service.serve now) (.new store turns) = (some (.ok entries), after)) :
    ListsModels store entries after := by
  have start : StandsForOffset "" (.new store turns) 0 := ⟨⟨reachable.sound, deletions⟩, counted, rfl, by decide⟩
  have collects := collects_of_run (models_rise service now pageSize) (by decide) start done
  obtain ⟨lists, pages⟩ := modelPages_of_collects collects start
  have listings : after.listings = lists := pages.listings
  have listed : lists.flatten.Sublist store.contents.keys := pages.listed
  have ordered := (Store.pairwise_keys store).sublist (pages.sublist.trans listed)
  -- Of those that are left, the entries tell what the pages have listed.
  have told : ∀ modelId ∈ after.store.contents, modelId ∈ entries.map (·.modelId) ↔ modelId ∈ lists.flatten :=
    fun modelId present => ⟨fun member => pages.sublist.subset member,
      fun member => by_contra fun missed => pages.gone modelId member missed present⟩
  refine ⟨ordered, pages.entry, ?_, ?_⟩ <;> rw [listings]
  · intro modelId present kept
    apply List.count_eq_one_of_mem (ordered.imp String.ne_of_lt)
    refine (told modelId present).mpr (pages.reached modelId present ?_ kept)
    intro other early
    cases early
  · intro none
    have shorter : after.store.contents.keys.length ≤ lists.flatten.length := by
      rw [Std.ExtTreeMap.length_keys]
      simpa using pages.last none
    have own := length_own_le Std.ExtTreeMap.nodup_keys (listed.nodup Std.ExtTreeMap.nodup_keys) shorter
    simp only [Std.ExtTreeMap.mem_keys] at own
    refine Nat.le_trans (Nat.le_of_eq (congrArg List.length (List.filter_congr ?_))) own
    intro modelId present
    rw [decide_eq_decide, told modelId (Std.ExtTreeMap.mem_keys.mp present)]

/-- Others delete a model that has not been listed yet, and the two that are left are listed. -/
theorem lists_models_left :
    let put (modelId : String) : Storage.Event := .call (.putModel modelId ∅)
    let store := (Store.new .memory).after [put "a", put "b", put "c"]
    let shared := SharedStore.new store [[], [.call (.deleteModel "b")]]
    let service : Service := ⟨1, none, 1000⟩
    store.Reachable ∧ store.contents.size ≤ maxInt64.toNat ∧ ∃ entries after,
      (listModels 1).run.run? (service.serve ⟨0, 0⟩) shared = (some (.ok entries), after) ∧
        entries.map (·.modelId) = ["a", "c"] ∧ ListsModels store entries after := by
  intro put store shared service
  have reachable : store.Reachable := ⟨.memory, [put "a", put "b", put "c"], rfl⟩
  have counted : store.contents.size ≤ maxInt64.toNat := by decide +kernel
  have identifiers : ((((listModels 1).run.run? (service.serve ⟨0, 0⟩) shared).1.bind (·.toOption)).map
      (·.map (·.modelId))) = some ["a", "c"] := by decide +kernel
  obtain ⟨entries, after, outcome, listed⟩ := ends_of_read identifiers
  refine ⟨reachable, counted, entries, after, outcome, listed, ?_⟩
  refine lists_models service ⟨0, 0⟩ 1 store [[], [.call (.deleteModel "b")]] reachable counted ?_ outcome
  intro turn member event happens
  simp only [List.mem_cons, List.not_mem_nil, or_false] at member
  rcases member with rfl | rfl
  · cases happens
  · exact ⟨"b", List.mem_singleton.mp happens⟩

/-- Others delete the model that the first page has listed, and the one that is left is passed over. -/
theorem lists_models_passes_over :
    let put (modelId : String) : Storage.Event := .call (.putModel modelId ∅)
    let store := (Store.new .memory).after [put "a", put "b"]
    let shared := SharedStore.new store [[], [], [.call (.deleteModel "a")]]
    let service : Service := ⟨1, none, 1000⟩
    ∃ entries after, (listModels 1).run.run? (service.serve ⟨0, 0⟩) shared = (some (.ok entries), after) ∧
      entries.map (·.modelId) = ["a"] ∧ ∀ exchange ∈ after.calls, "b" ∈ exchange.store.contents := by
  intro put store shared service
  have identifiers : ((((listModels 1).run.run? (service.serve ⟨0, 0⟩) shared).1.bind (·.toOption)).map
      (·.map (·.modelId))) = some ["a"] := by decide +kernel
  have always : ∀ exchange ∈ ((listModels 1).run.run? (service.serve ⟨0, 0⟩) shared).2.calls,
      "b" ∈ exchange.store.contents := by decide +kernel
  obtain ⟨entries, after, outcome, listed⟩ := ends_of_read identifiers
  rw [outcome] at always
  exact ⟨entries, after, outcome, listed, always⟩

end ModelVault.Client
