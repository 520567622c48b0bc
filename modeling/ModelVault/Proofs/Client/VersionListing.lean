import ModelVault.Proofs.Client.Collecting
import ModelVault.Proofs.Service.Paging
import ModelVault.Proofs.Storage.Sparing

/-!
The listing of the versions of a model, page by page, while others change the store. The numbers before the
next page's position have been dealt with, whatever becomes of their versions, and those from there on are
still to come.
-/

namespace ModelVault.Client

open Storage (Store)

/-- A page of versions, and the store that it was served from. -/
structure VersionPage where
  store : Store
  versions : List VersionInfo

variable {service : Service} {now : Moment} {modelId handle : String} {count : UInt32} {shared after : SharedStore}

private theorem page_of_fetched (sound : shared.store.Sound) {page : List Wire.VersionEntry} {next : String}
    (fetched : (versions modelId [] count handle).run.run? (service.serve now) shared =
      (some (.ok (page, next)), after)) :
    ∃ position model call, Handle.parse .bits64 "version_handle" handle = .ok position ∧
      shared.met.contents[modelId]? = some model ∧
      page = (Service.versionsFrom model position count.toNat).map (·.entry) ∧
      next = Handle.format (Service.nextPosition (Service.versionsFrom model position count.toNat) position) ∧
      after = ⟨shared.met, shared.turns.tail, ⟨call, shared.met⟩ :: shared.calls⟩ := by
  obtain ⟨reply, between, asked, read⟩ := run?_bind_ok fetched
  obtain ⟨position, model, call, parsed, found, rfl, rfl⟩ := Service.serve_versions sound (answered_of_ask asked)
  cases read
  exact ⟨position, model, call, parsed, found, rfl, rfl, rfl⟩

/-- A handle stands for a position up to the one behind the last number that there can be. -/
private def StandsFor (handle : String) (shared : SharedStore) (position : Nat) : Prop :=
  shared.store.Sound ∧ Handle.parse .bits64 "version_handle" handle = .ok position ∧ position ≤ UInt32.size

private theorem standsFor_next {store : Store} {model : Storage.StoredModel} (sound : store.Sound)
    (found : store.contents[modelId]? = some model) {position count : Nat}
    (more : Service.versionsFrom model position count ≠ []) (turns : List (List Storage.Event))
    (calls : List Exchange) :
    position < Service.nextPosition (Service.versionsFrom model position count) position ∧
      StandsFor (Handle.format (Service.nextPosition (Service.versionsFrom model position count) position))
        ⟨store, turns, calls⟩ (Service.nextPosition (Service.versionsFrom model position count) position) := by
  have modelSound := sound.model modelId
  rw [Store.model_eq found] at modelSound
  obtain ⟨above, possible⟩ := Service.nextPosition_versionsFrom modelSound position count more
  refine ⟨above, sound, Handle.parse_format .bits64 _ ?_, possible⟩
  exact Nat.lt_of_le_of_lt possible (by decide)

private theorem next_of_fetched (sound : shared.store.Sound) {page : List Wire.VersionEntry} {next : String}
    {position : Nat} (parsed : Handle.parse .bits64 "version_handle" handle = .ok position)
    (fetched : (versions modelId [] count handle).run.run? (service.serve now) shared =
      (some (.ok (page, next)), after)) (more : page ≠ []) :
    ∃ higher, next = Handle.format higher ∧ position < higher ∧ StandsFor next after higher := by
  obtain ⟨_, model, call, same, found, rfl, rfl, rfl⟩ := page_of_fetched sound fetched
  rw [parsed] at same
  cases same
  obtain ⟨above, there⟩ := standsFor_next (SharedStore.sound_met sound) found
    (fun none => more (by rw [none, List.map_nil])) shared.turns.tail (⟨call, shared.met⟩ :: shared.calls)
  exact ⟨_, rfl, above, there⟩

private theorem rises (service : Service) (now : Moment) (modelId : String) (count : UInt32) :
    Rises (versions modelId [] count) (service.serve now) StandsFor UInt32.size where
  bounded here := here.2.2
  next here fetched more :=
    have ⟨higher, _, above, there⟩ := next_of_fetched here.1 here.2.1 fetched more
    ⟨higher, above, there⟩

/-- The pages of a listing from a position on. -/
structure Pages (modelId : String) (position : Nat) (pages : List VersionPage) : Prop where
  /-- The numbers rise, on each page and from page to page. -/
  ordered : (pages.flatMap (·.versions)).Pairwise fun one other => one.number < other.number
  behind : ∀ info ∈ pages.flatMap (·.versions), position ≤ info.number.toNat
  /-- What a page lists was stored when the page was served. -/
  stored : ∀ page ∈ pages, ∀ info ∈ page.versions,
    ∃ version, page.store.Holds modelId info.number version ∧ version.info = info
  /-- A number under which there was a version whenever a page was served is on one of them. -/
  complete : ∀ number : UInt32, position ≤ number.toNat →
    (∀ page ∈ pages, ∃ version, page.store.Holds modelId number version) →
    ∃ info ∈ pages.flatMap (·.versions), info.number = number

namespace Pages

variable {store : Store} {model : Storage.StoredModel} {position count : Nat}
  (sound : store.Sound) (found : store.contents[modelId]? = some model)

include sound found

private theorem modelSound : model.Sound modelId := by
  rw [← Store.model_eq found]
  exact sound.model modelId

private theorem holds_of_mem {info : VersionInfo} (member : info ∈ Service.versionsFrom model position count) :
    ∃ version, store.Holds modelId info.number version ∧ version.info = info := by
  obtain ⟨_, version, listed, same⟩ :=
    Service.mem_versionsFrom (modelSound sound found) position count member
  exact ⟨version, ⟨model, found, listed⟩, same⟩

private theorem covered (count : Nat) {number : UInt32} (behind : position ≤ number.toNat)
    (held : ∃ version, store.Holds modelId number version) :
    (∃ info ∈ Service.versionsFrom model position count, info.number = number) ∨
      (Service.versionsFrom model position count ≠ [] ∧
        Service.nextPosition (Service.versionsFrom model position count) position ≤ number.toNat) := by
  obtain ⟨version, other, same, listed⟩ := held
  rw [found] at same
  cases same
  rcases Service.versionsFrom_covers (modelSound sound found) position count listed behind with here | later
  · exact .inl ⟨version.info, here, ((modelSound sound found).described number version listed).2.1⟩
  · exact .inr later

private theorem last (empty : Service.versionsFrom model position count = []) :
    Pages modelId position [⟨store, []⟩] where
  ordered := by simp
  behind := by simp
  stored := by simp
  complete number behind held := by
    rcases covered sound found count behind (held _ (List.mem_singleton_self _)) with ⟨info, here, _⟩ | ⟨more, _⟩
    · rw [empty] at here
      cases here
    · exact absurd empty more

private theorem cons {pages : List VersionPage}
    (rest : Pages modelId (Service.nextPosition (Service.versionsFrom model position count) position) pages)
    (more : Service.versionsFrom model position count ≠ []) :
    Pages modelId position (⟨store, Service.versionsFrom model position count⟩ :: pages) where
  ordered := by
    rw [List.flatMap_cons, List.pairwise_append]
    refine ⟨Service.pairwise_versionsFrom (modelSound sound found) position count, rest.ordered, ?_⟩
    intro info here other there
    have below := Service.lt_nextPosition (modelSound sound found) position count here
    exact UInt32.lt_iff_toNat_lt.mpr (Nat.lt_of_lt_of_le below (rest.behind other there))
  behind info member := by
    rw [List.flatMap_cons, List.mem_append] at member
    rcases member with here | there
    · exact (Service.mem_versionsFrom (modelSound sound found) position count here).1
    · have above := (Service.nextPosition_versionsFrom (modelSound sound found) position count more).1
      exact Nat.le_trans (Nat.le_of_lt above) (rest.behind info there)
  stored page listed info member := by
    rcases List.mem_cons.mp listed with rfl | later
    · exact holds_of_mem sound found member
    · exact rest.stored page later info member
  complete number behind held := by
    obtain ⟨heldHere, heldLater⟩ := List.forall_mem_cons.mp held
    rcases covered sound found count behind heldHere with ⟨info, here, same⟩ | ⟨_, later⟩
    · exact ⟨info, List.mem_append_left _ here, same⟩
    · obtain ⟨info, there, same⟩ := rest.complete number later heldLater
      exact ⟨info, List.mem_append_right _ there, same⟩

end Pages

private theorem pages_of_collects {entries : List Wire.VersionEntry} {position : Nat}
    (collects : Collects (versions modelId [] count) (service.serve now) handle shared entries after)
    (here : StandsFor handle shared position) :
    ∃ pages, Pages modelId position pages ∧ entries = pages.flatMap (·.versions.map (·.entry)) ∧
      (after.calls.map (·.store)).reverse = (shared.calls.map (·.store)).reverse ++ pages.map (·.store) := by
  induction collects generalizing position with
  | last fetched =>
    obtain ⟨_, model, call, same, found, none, _, rfl⟩ := page_of_fetched here.1 fetched
    rw [here.2.1] at same
    cases same
    have empty := List.map_eq_nil_iff.mp none.symm
    exact ⟨_, Pages.last (SharedStore.sound_met here.1) found empty, rfl, by simp⟩
  | page fetched more rest ih =>
    obtain ⟨_, model, call, same, found, rfl, rfl, rfl⟩ := page_of_fetched here.1 fetched
    rw [here.2.1] at same
    cases same
    have listed := fun none => more (List.map_eq_nil_iff.mpr none)
    obtain ⟨_, there⟩ := standsFor_next (SharedStore.sound_met here.1) found listed _ _
    obtain ⟨pages, others, rfl, stores⟩ := ih there
    refine ⟨_, Pages.cons (SharedStore.sound_met here.1) found others listed, rfl, ?_⟩
    rw [stores]
    simp

/-- What a listing of all versions of a model comes to, with a store that others use in between. -/
structure ListsVersions (service : Service) (now : Moment) (modelId : String) (pageSize : UInt32)
    (shared : SharedStore) : Prop where
  /-- Whatever the store is like by then, every page that is not empty raises the handle, which never passes
  the number behind the last that there can be. -/
  raised : ∀ {handle position between page next after}, between.store.Sound →
    Handle.parse .bits64 "version_handle" handle = .ok position →
    (versions modelId [] pageSize handle).run.run? (service.serve now) between = (some (.ok (page, next)), after) →
    page ≠ [] → ∃ higher, next = Handle.format higher ∧ position < higher ∧ higher ≤ UInt32.size
  /-- The loop ends by itself, after no more pages than there are numbers and an empty one. -/
  ends : ∀ bound, UInt32.size < bound →
    (collect (versions modelId [] pageSize) bound "").run.run? (service.serve now) shared =
      (listVersions modelId pageSize).run.run? (service.serve now) shared
  /-- The numbers rise. What a page lists was stored when the page was served, and a number under which there
  was a version whenever a page was served is listed once. -/
  listed : ∀ {entries after},
    (listVersions modelId pageSize).run.run? (service.serve now) shared = (some (.ok entries), after) →
    entries.Pairwise (fun one other => one.number < other.number) ∧
      ∃ pages : List VersionPage,
        entries = pages.flatMap (·.versions.map (·.entry)) ∧
        pages.map (·.store) = (after.calls.map (·.store)).reverse ∧
        (∀ page ∈ pages, ∀ info ∈ page.versions,
          ∃ version, page.store.Holds modelId info.number version ∧ version.info = info) ∧
        ∀ number, (∀ page ∈ pages, ∃ version, page.store.Holds modelId number version) →
          (entries.map (·.number)).count number = 1

/-- For every size of the pages and whatever others do to the store before each page is served, the versions of
a model are listed in the order of their numbers, and those under whose number there always was a version are
listed once. -/
theorem lists_versions (service : Service) (now : Moment) (modelId : String) (pageSize : UInt32) (store : Store)
    (turns : List (List Storage.Event)) (reachable : store.Reachable) :
    ListsVersions service now modelId pageSize (.new store turns) := by
  have start : StandsFor "" (.new store turns) 0 := ⟨reachable.sound, rfl, by decide⟩
  constructor
  · intro handle position between page next after sound parsed fetched more
    obtain ⟨higher, same, above, there⟩ := next_of_fetched sound parsed fetched more
    exact ⟨higher, same, above, there.2.2⟩
  · intro bound enough
    exact run?_collect_bound (rises service now modelId pageSize) enough (by decide) start
  · intro entries after done
    have collects := collects_of_run (rises service now modelId pageSize) (by decide) start done
    obtain ⟨pages, listed, rfl, stores⟩ := pages_of_collects collects start
    have numbers : (pages.flatMap (·.versions.map (·.entry))).map (·.number) =
        (pages.flatMap (·.versions)).map (·.number) := by
      simp only [List.map_flatMap, List.map_map]
      rfl
    have ordered := List.pairwise_map.mpr listed.ordered
    rw [← numbers] at ordered
    refine ⟨List.pairwise_map.mp ordered, pages, rfl, stores.symm, listed.stored, ?_⟩
    intro number held
    obtain ⟨info, member, same⟩ := listed.complete number (Nat.zero_le _) held
    rw [List.count_eq_one_of_mem (ordered.imp UInt32.ne_of_lt)]
    rw [numbers, ← same]
    exact List.mem_map_of_mem member

/-- While two versions are listed one by one, others delete the first and store a third. -/
theorem lists_versions_one_by_one :
    let put : Storage.Event := .call (.putVersion "m" ⟨0, ⟨0, 0⟩, false, "", [], ∅, by decide⟩)
    let store := (Store.new .memory).after [put, put]
    let shared := SharedStore.new store [[], [.call (.deleteVersion "m" 1), put]]
    let service : Service := ⟨1, none, 1000⟩
    store.Reachable ∧ ∃ entries after,
      (listVersions "m" 1).run.run? (service.serve ⟨0, 0⟩) shared = (some (.ok entries), after) ∧
        entries.map (·.number) = [1, 2, 3] ∧ entries.Pairwise fun one other => one.number < other.number := by
  intro put store shared service
  have reachable : store.Reachable := ⟨.memory, [put, put], rfl⟩
  have lists := lists_versions service ⟨0, 0⟩ "m" 1 store [[], [.call (.deleteVersion "m" 1), put]] reachable
  have numbers : ((((listVersions "m" 1).run.run? (service.serve ⟨0, 0⟩) shared).1.bind (·.toOption)).map
      (·.map (·.number))) = some [1, 2, 3] := by decide +kernel
  obtain ⟨entries, after, outcome, listed⟩ := ends_of_read numbers
  exact ⟨reachable, entries, after, outcome, listed, (lists.listed outcome).1⟩

end ModelVault.Client
