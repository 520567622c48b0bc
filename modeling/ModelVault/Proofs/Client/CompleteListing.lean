import ModelVault.Proofs.Client.Collecting
import ModelVault.Proofs.Client.RoundTrip
import ModelVault.Proofs.Service.Enumeration

/-!
Listings of a store that does not change meanwhile. Whoever follows the handles to the first empty page gets every
entry once and in order, and so does a client that collects all models.
-/

namespace ModelVault.Client

open Service (AllModels ModelsFetched TellsModels TellsVersions VersionsFetched everyModel)
open Storage (Store)
open Wire (Message)

/-- The messages of a listing of all models fit, page by page. -/
structure PagesFit (service : Service) (count : UInt32) (entries : List Wire.ModelEntry) : Prop where
  first : service.Carries (Message.size (Wire.ModelsRequest.mk [] count ""))
  next : ∀ offset ≤ entries.length,
    service.Carries (Message.size (Wire.ModelsRequest.mk [] count (Handle.format offset)))
  page : ∀ offset ≤ entries.length,
    let page := (entries.drop offset).take (effectiveLimit count.toNat)
    service.Carries (Message.size (Wire.ModelsReply.mk page (Handle.format (offset + page.length))))

section Collected

variable {service : Service} {now : Moment} {store : Store} {count : UInt32} {handle next : String}
  {entries page : List Wire.ModelEntry}

private theorem run?_models (fetched : ModelsFetched store [] count handle page next)
    (query : service.Carries (Message.size (Wire.ModelsRequest.mk [] count handle)))
    (reply : service.Carries (Message.size (Wire.ModelsReply.mk page next))) (calls : List Exchange) :
    ∃ later, (models [] count handle).run.run? (service.serve now) ⟨store, [], calls⟩ =
      (some (.ok (page, next)), ⟨store, [], later⟩) := by
  obtain ⟨later, served⟩ := fetched.sent service now calls
  have taken : (Request.models ⟨[], count, handle⟩).checkSize service.maxMessageSize = .ok () := if_pos query.1
  have sent : (Reply.models ⟨page, next⟩).send service.maxMessageSize = .ok (.models ⟨page, next⟩) :=
    Reply.send_fitting _ reply.1 reply.counted
  rw [taken, sent] at served
  have small : ∀ octets ∈ sizes (.models ⟨[], count, handle⟩), octets ≤ maxMessageSize :=
    List.forall_mem_singleton.mpr query.2
  exact ⟨later, run?_ask_bind _ small served (receive_models reply.2)⟩

private theorem run?_collect_models
    (cuts : CutFrom "model_handle" (ModelsFetched store [] count) entries (effectiveLimit count.toNat))
    (fit : PagesFit service count entries) {bound offset : Nat} (enough : entries.length < bound + offset)
    (within : offset ≤ entries.length) (parsed : Handle.parse .bits64 "model_handle" handle = .ok offset)
    (query : service.Carries (Message.size (Wire.ModelsRequest.mk [] count handle))) (calls : List Exchange) :
    ∃ later, (collect (models [] count) bound handle).run.run? (service.serve now) ⟨store, [], calls⟩ =
      (some (.ok (entries.drop offset)), ⟨store, [], later⟩) := by
  induction bound generalizing handle offset calls with
  | zero => omega
  | succ bound ih =>
    obtain ⟨between, fetched⟩ := run?_models (cuts.cut handle offset parsed) query (fit.page offset within) calls
    rw [collect_succ, run?_bind _ fetched]
    by_cases none : (entries.drop offset).take (effectiveLimit count.toNat) = []
    · rw [none, List.drop_eq_nil_of_le ((cuts.page_eq_nil_iff offset).mp none)]
      exact ⟨between, rfl⟩
    · have more := mt (cuts.page_eq_nil_iff offset).mpr none
      have some := List.length_pos_iff.mpr none
      have inside : offset + ((entries.drop offset).take (effectiveLimit count.toNat)).length ≤ entries.length := by
        rw [List.length_take, List.length_drop]
        omega
      obtain ⟨later, others⟩ := ih (by omega) inside (Handle.parse_format .bits64 _ (cuts.next_lt parsed))
        (fit.next _ inside) between
      refine ⟨later, ?_⟩
      rw [if_neg (by simpa using none), run?_bind _ others]
      rw [Service.take_append_drop_length]
      rfl

end Collected

/-- In every listing of a store that does not change meanwhile, whatever the size of the pages, the handles lead from
the empty one to the first empty page, and to every entry once: to all models in the order of the octets of their
identifiers, and to the models or versions that were asked for in the order of the request, as often as they were asked
for. So a client that lists all models gets them all, if the messages fit. The store has no more models than its tables
can count, and a request no more items than there can be positions. -/
theorem listings_complete (store : Store) (sound : store.Sound) (opened : store.isOpen = true)
    (counted : store.contents.size ≤ maxInt64.toNat) (count : UInt32) :
    (AllModels store (everyModel store) ∧
      Enumerates "model_handle" (ModelsFetched store [] count) ((everyModel store).map (·.entry)) ∧
      ∀ (service : Service) (now : Moment), PagesFit service count ((everyModel store).map (·.entry)) →
        ∃ after, (listModels count).run.run? (service.serve now) (.new store []) =
          (some (.ok ((everyModel store).map (·.entry))), after)) ∧
    (∀ modelIds : List String, modelIds ≠ [] → modelIds.length < UInt64.size →
      (∀ modelId ∈ modelIds, store.Knows modelId) → ∃ infos, TellsModels store modelIds infos ∧
        Enumerates "model_handle" (ModelsFetched store modelIds count) (infos.map (·.entry))) ∧
    (∀ (modelId : String) (numbers : List UInt32), numbers ≠ [] → numbers.length < UInt64.size →
      (∃ number version, store.Holds modelId number version) →
      (∀ number ∈ numbers, number = 0 ∨ ∃ version, store.Holds modelId number version) →
      ∃ infos, TellsVersions store modelId numbers infos ∧
        Enumerates "version_handle" (VersionsFetched store modelId numbers count) (infos.map (·.entry))) := by
  have all := Service.allModels_everyModel sound opened
  have told := all.told
  rw [Service.map_id_everyModel] at told
  have cuts := Service.cutFrom_allModels sound opened counted told count
  refine ⟨⟨all, cuts.enumerates, fun service now fit => ?_⟩, ?_, ?_⟩
  · have enough : ((everyModel store).map (·.entry)).length < pageBound + 0 := cuts.addressable
    obtain ⟨later, collected⟩ := run?_collect_models cuts fit enough (Nat.zero_le _) rfl fit.first []
    exact ⟨_, collected⟩
  · intro modelIds some addressable known
    have told := Service.tellsModels_of_known sound known
    exact ⟨_, told, (Service.cutFrom_someModels some addressable told count).enumerates⟩
  · intro modelId numbers some addressable held each
    obtain ⟨infos, told⟩ := Service.tellsVersions_of_held sound opened held each
    exact ⟨infos, told, (Service.cutFrom_someVersions some addressable told count).enumerates⟩

/-- Two models, put in the other order, are listed one by one, and the highest version before the first and after it. -/
theorem listings_complete_one_by_one :
    let put (modelId : String) : Storage.Event := .call (.putVersion modelId ⟨0, ⟨0, 0⟩, false, "", [7], ∅, by decide⟩)
    let store := (Store.new .duckdb).after [put "b", put "a", put "b"]
    let service : Service := ⟨1, none, 100⟩
    (∃ after, (listModels 1).run.run? (service.serve ⟨0, 0⟩) (.new store []) =
      (some (.ok [⟨"a", ∅⟩, ⟨"b", ∅⟩]), after)) ∧
      ∃ infos : List VersionInfo, infos.map (·.number) = [2, 1, 2] ∧
        Enumerates "version_handle" (VersionsFetched store "b" [0, 1, 0] 1) (infos.map (·.entry)) := by
  intro put store service
  have reachable : store.Reachable := ⟨.duckdb, [put "b", put "a", put "b"], rfl⟩
  obtain ⟨⟨_, _, collected⟩, _, versions⟩ :=
    listings_complete store reachable.sound rfl (by decide +kernel) 1
  constructor
  · have entries : (everyModel store).map (·.entry) = [⟨"a", ∅⟩, ⟨"b", ∅⟩] := by decide +kernel
    rw [entries] at collected
    exact collected service ⟨0, 0⟩ ⟨by decide +kernel, by decide +kernel, by decide +kernel⟩
  · have held (number : UInt32) (present : ((store.model "b").versions[number]?).isSome = true) :
        ∃ version, store.Holds "b" number version := by
      obtain ⟨version, stored⟩ := Option.isSome_iff_exists.mp present
      exact ⟨version, Store.holds_iff.mpr stored⟩
    have first := held 1 (by decide +kernel)
    obtain ⟨infos, told, enumerates⟩ := versions "b" [0, 1, 0] (by simp) (by decide) ⟨1, first⟩ (by simp [first])
    refine ⟨infos, ?_, enumerates⟩
    have highest : (store.perform (.versionInfo "b" 0)).1.toOption.map (·.number) = some 2 := by decide +kernel
    have lowest : (store.perform (.versionInfo "b" 1)).1.toOption.map (·.number) = some 1 := by decide +kernel
    rcases told with _ | ⟨first, _ | ⟨second, _ | ⟨third, _ | _⟩⟩⟩
    cases first.symm.trans third
    rw [first] at highest
    rw [second] at lowest
    simp only [List.map_cons, List.map_nil, Option.some.inj highest, Option.some.inj lowest]

end ModelVault.Client
