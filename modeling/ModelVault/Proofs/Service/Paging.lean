import ModelVault.Proofs.Service.Handles
import ModelVault.Proofs.Service.Sharing
import ModelVault.Proofs.Storage.Addressing

/-!
Pages of a listing. A handle stands for the position that it was made of; a page of versions begins at a
number and a page of models at an offset.
-/

namespace ModelVault

open Storage (Call NestedStore Store)

theorem Reply.send_eq_ok {limit : Nat} {reply sent : Reply} (done : reply.send limit = .ok sent)
    (whole : ∀ pieces failure, reply ≠ .data pieces failure) : sent = reply := by
  have checked : ∀ {check : Except Status Unit}, check.map (fun _ => reply) = .ok sent → sent = reply := by
    intro check fit
    cases check with
    | error status => cases fit
    | ok fits => exact (Except.ok.inj fit).symm
  cases reply with
  | done => exact (Except.ok.inj done).symm
  | models message => exact checked done
  | uploaded message => exact checked done
  | versions message => exact checked done
  | data pieces failure => exact absurd rfl (whole pieces failure)

namespace Service

variable {service : Service} {now : Moment} {shared after : SharedStore} {modelId handle : String} {count : UInt32}

theorem checkSize_of_served {request : Request} {reply : Reply}
    (served : service.serve now request shared = (some (.ok reply), after)) :
    request.checkSize service.maxMessageSize = .ok () := by
  cases checked : request.checkSize service.maxMessageSize with
  | ok fits => rfl
  | error status => simp [serve, plan, prepare_oversized checked, Plan.map] at served

/-- A request for a page that is served has a handle which stands for a position, and what the work there ends
well with is sent. -/
theorem run_of_served {request : Request} {field : String} {work : Nat → Work Reply}
    (prepared : service.prepare now request = withPosition field handle work)
    {reply : Reply} (served : service.serve now request shared = (some (.ok reply), after)) :
    ∃ position result, Handle.parse .bits64 field handle = .ok position ∧
      (work position).run.run SharedStore.answer shared = (.ok result, after) ∧
      result.send service.maxMessageSize = .ok reply := by
  rw [serve, plan, prepared, withPosition] at served
  cases parsed : Handle.parse .bits64 field handle with
  | error status => simp [parsed, Plan.map] at served
  | ok position =>
    simp only [parsed, Plan.map, run_replying, Prod.mk.injEq, Option.some.injEq] at served
    obtain ⟨sent, rfl⟩ := served
    rcases done : (work position).run.run SharedStore.answer shared with ⟨status | result, later⟩
    · rw [done] at sent
      cases sent
    · rw [done] at sent
      exact ⟨position, result, rfl, done, sent⟩

/-- The versions of a model on a page that begins at a number. -/
def versionsFrom (model : Storage.StoredModel) (position count : Nat) : List VersionInfo :=
  ((model.versions.toList.filter (position ≤ ·.1.toNat)).take (effectiveLimit count)).map (·.2.info)

theorem nextPosition_concat (before : List VersionInfo) (last : VersionInfo) (position : Nat) :
    nextPosition (before ++ [last]) position = last.number.toNat + 1 := by
  rw [nextPosition, List.getLast?_concat]

section VersionsFrom

variable {model : Storage.StoredModel} (sound : model.Sound modelId) (position count : Nat)

include sound

theorem versionsFrom_eq : versionsFrom model position count =
    (model.infos.filter (position ≤ ·.number.toNat)).take (effectiveLimit count) := by
  rw [versionsFrom, List.map_take, sound.filter_infos (position ≤ ·.toNat)]

/-- A page lists versions of the model, from the position on. -/
theorem mem_versionsFrom {info : VersionInfo} (member : info ∈ versionsFrom model position count) :
    position ≤ info.number.toNat ∧
      ∃ version, model.versions[info.number]? = some version ∧ version.info = info := by
  rw [versionsFrom_eq sound] at member
  obtain ⟨listed, inside⟩ := List.mem_filter.mp (List.mem_of_mem_take member)
  exact ⟨of_decide_eq_true inside, sound.mem_infos_iff.mp listed⟩

theorem pairwise_versionsFrom :
    (versionsFrom model position count).Pairwise fun one other => one.number < other.number := by
  rw [versionsFrom_eq sound]
  exact (sound.pairwise_infos.filter _).sublist (List.take_sublist _ _)

theorem lt_nextPosition {info : VersionInfo} (member : info ∈ versionsFrom model position count) :
    info.number.toNat < nextPosition (versionsFrom model position count) position := by
  have ordered := pairwise_versionsFrom sound position count
  rcases List.eq_nil_or_concat' (versionsFrom model position count) with none | ⟨before, last, page⟩
  · rw [none] at member
    cases member
  · rw [page, List.pairwise_append] at ordered
    rw [page, List.mem_append, List.mem_singleton] at member
    rw [page, nextPosition_concat]
    rcases member with earlier | rfl
    · exact Nat.lt_succ_of_lt (UInt32.lt_iff_toNat_lt.mp (ordered.2.2 info earlier last (List.mem_singleton_self last)))
    · exact Nat.lt_succ_self _

/-- A version from the position on is on the page, or the page has an entry and the next page begins no later
than with this version. -/
theorem versionsFrom_covers {number : UInt32} {version : Storage.StoredVersion}
    (stored : model.versions[number]? = some version) (behind : position ≤ number.toNat) :
    version.info ∈ versionsFrom model position count ∨
      (versionsFrom model position count ≠ [] ∧
        nextPosition (versionsFrom model position count) position ≤ number.toNat) := by
  obtain ⟨_, numbered, _⟩ := sound.described number version stored
  have listed : version.info ∈ model.infos := sound.mem_infos_iff.mpr ⟨version, by rw [numbered, stored], rfl⟩
  have member : version.info ∈ model.infos.filter (position ≤ ·.number.toNat) :=
    List.mem_filter.mpr ⟨listed, decide_eq_true (by rwa [numbered])⟩
  have whole := List.take_append_drop (effectiveLimit count) (model.infos.filter (position ≤ ·.number.toNat))
  have ordered := sound.pairwise_infos.filter (position ≤ ·.number.toNat)
  rw [← whole, ← versionsFrom_eq sound, List.pairwise_append] at ordered
  rw [← whole, ← versionsFrom_eq sound, List.mem_append] at member
  rcases member with taken | left
  · exact .inl taken
  · -- What is left out comes behind the last entry of a full page.
    rcases List.eq_nil_or_concat' (versionsFrom model position count) with none | ⟨before, last, page⟩
    · rw [versionsFrom_eq sound] at none
      rcases List.take_eq_nil_iff.mp none with zero | empty
      · exact absurd zero (Nat.ne_of_gt (effectiveLimit_pos count))
      · rw [empty] at left
        simp at left
    · have final : last ∈ versionsFrom model position count :=
        page ▸ List.mem_append_right before (List.mem_singleton_self last)
      have below := ordered.2.2 last final _ left
      rw [numbered] at below
      rw [page, nextPosition_concat]
      exact .inr ⟨by simp, UInt32.lt_iff_toNat_lt.mp below⟩

/-- Behind a page that is not empty, the position is higher, but no higher than behind the last number there
can be. -/
theorem nextPosition_versionsFrom (more : versionsFrom model position count ≠ []) :
    position < nextPosition (versionsFrom model position count) position ∧
      nextPosition (versionsFrom model position count) position ≤ UInt32.size := by
  rcases List.eq_nil_or_concat' (versionsFrom model position count) with none | ⟨before, last, page⟩
  · exact absurd none more
  · have final : last ∈ versionsFrom model position count :=
      page ▸ List.mem_append_right before (List.mem_singleton_self last)
    have inside := (mem_versionsFrom sound position count final).1
    have bound := last.number.toNat_lt
    rw [page, nextPosition_concat]
    simp only [UInt32.size]
    omega

end VersionsFrom

/-- The clamp of a position and the filter behind the listing make a page that begins at the position. -/
private theorem filter_listed (infos : List VersionInfo) (position limit : Nat) :
    ((infos.filter (UInt32.ofNat (min position 4294967295) ≤ ·.number)).take limit).filter
        (position ≤ ·.number.toNat) = (infos.filter (position ≤ ·.number.toNat)).take limit := by
  by_cases possible : position ≤ 4294967295
  · have clamped : (UInt32.ofNat (min position 4294967295)).toNat = position := by
      rw [Nat.min_eq_left possible, UInt32.toNat_ofNat_of_lt' (by simp only [UInt32.size]; omega)]
    simp only [UInt32.le_iff_toNat_le, clamped]
    exact List.filter_eq_self.mpr fun info member => (List.mem_filter.mp (List.mem_of_mem_take member)).2
  · -- No number is that high: the page is empty whatever was listed.
    have none : ∀ {infos : List VersionInfo}, infos.filter (position ≤ ·.number.toNat) = [] := by
      intro infos
      rw [List.filter_eq_nil_iff]
      intro info _
      have bound := info.number.toNat_lt
      simp only [decide_eq_true_eq]
      omega
    rw [none, none, List.take_nil]

theorem run_allVersions_known (sound : shared.store.Sound) (opened : shared.met.isOpen = true)
    {model : Storage.StoredModel} (known : shared.met.contents[modelId]? = some model) (position count : Nat) :
    ∃ call, (allVersions modelId position count).run.run SharedStore.answer shared =
      (.ok (.versions ⟨(versionsFrom model position count).map (·.entry),
        Handle.format (nextPosition (versionsFrom model position count) position)⟩),
        ⟨shared.met, shared.turns.tail, ⟨call, shared.met⟩ :: shared.calls⟩) := by
  have metSound := SharedStore.sound_met sound
  have modelSound := metSound.model modelId
  rw [Store.model_eq known] at modelSound
  have listed := Store.perform_listVersions_known metSound opened known (UInt32.ofNat (min position 4294967295)) count
  refine ⟨.listVersions modelId (UInt32.ofNat (min position 4294967295)) count, ?_⟩
  rw [versionsFrom_eq modelSound, ← filter_listed]
  exact run_bind_of_ok (run_ask (SharedStore.answer_of_perform listed) _) _

private theorem run_allVersions (sound : shared.store.Sound) (position count : Nat) {reply : Reply}
    (done : (allVersions modelId position count).run.run SharedStore.answer shared = (.ok reply, after)) :
    ∃ model call, shared.met.contents[modelId]? = some model ∧
      reply = .versions ⟨(versionsFrom model position count).map (·.entry),
        Handle.format (nextPosition (versionsFrom model position count) position)⟩ ∧
      after = ⟨shared.met, shared.turns.tail, ⟨call, shared.met⟩ :: shared.calls⟩ := by
  obtain ⟨listed, between, asked, _⟩ := run_bind_ok done
  obtain ⟨store, replied, _⟩ := SharedStore.perform_of_answer (answered_of_ask asked)
  have opened := Store.isOpen_of_answered replied nofun
  rw [Store.perform_listVersions (SharedStore.sound_met sound) opened, NestedStore.listVersions,
    NestedStore.model] at replied
  cases known : shared.met.contents[modelId]? with
  | none =>
    rw [known] at replied
    cases replied
  | some model =>
    obtain ⟨call, ran⟩ := run_allVersions_known sound opened known position count
    rw [ran] at done
    cases done
    exact ⟨model, call, rfl, rfl, rfl⟩

/-- A page of versions begins at the position that the handle stands for, lists what the store holds when it
is asked, and is followed by the position behind its last version. -/
theorem serve_versions (sound : shared.store.Sound) {reply : Reply}
    (served : service.serve now (.versions ⟨modelId, [], count, handle⟩) shared = (some (.ok reply), after)) :
    ∃ position model call, Handle.parse .bits64 "version_handle" handle = .ok position ∧
      shared.met.contents[modelId]? = some model ∧
      reply = .versions ⟨(versionsFrom model position count.toNat).map (·.entry),
        Handle.format (nextPosition (versionsFrom model position count.toNat) position)⟩ ∧
      after = ⟨shared.met, shared.turns.tail, ⟨call, shared.met⟩ :: shared.calls⟩ := by
  have prepared : service.prepare now (.versions ⟨modelId, [], count, handle⟩) =
      withPosition "version_handle" handle fun position => allVersions modelId position count.toNat := by
    rw [prepare, checkSize_of_served served]
    rfl
  obtain ⟨position, result, parsed, done, sent⟩ := run_of_served prepared served
  obtain ⟨model, call, found, rfl, rfl⟩ := run_allVersions sound position count.toNat done
  exact ⟨position, model, call, parsed, found, Reply.send_eq_ok sent (by simp), rfl⟩

/-- The models of which something is found, of those that were listed. -/
structure Found (store : Store) (listed : List String) (entries : List Wire.ModelEntry) (after : Store) : Prop where
  sublist : (entries.map (·.modelId)).Sublist listed
  entry : ∀ entry ∈ entries, ∃ model, store.contents[entry.modelId]? = some model ∧
    (model.info entry.modelId).entry = entry
  /-- What is not found is gone. -/
  gone : ∀ modelId ∈ listed, modelId ∉ entries.map (·.modelId) → modelId ∉ after.contents
  part : after.PartOf store

private theorem run_remainingModels (listed : List String) (quiet : shared.Quiet) {entries : List Wire.ModelEntry}
    (done : (remainingModels listed).run.run SharedStore.answer shared = (.ok entries, after)) :
    Found shared.store listed entries after.store ∧ after.Quiet ∧ after.listings = shared.listings := by
  induction listed generalizing shared entries with
  | nil =>
    cases done
    exact ⟨⟨List.Sublist.refl _, nofun, nofun, .refl _⟩, quiet, rfl⟩
  | cons modelId rest ih =>
    obtain ⟨answered, between, asked, remaining⟩ := run_bind_ok done
    obtain ⟨store, replied, rfl⟩ := SharedStore.perform_of_answer (answered_of_lift asked)
    cases opened : shared.met.isOpen with
    | false =>
      have refused : shared.met.perform (.modelInfo modelId) = (.error .destroyed, shared.met) :=
        Store.perform_closed opened nofun
      rw [refused] at replied
      cases replied
      cases remaining
    | true =>
      rw [Store.perform_modelInfo (SharedStore.sound_met quiet.sound) opened, NestedStore.model] at replied
      cases known : shared.met.contents[modelId]? with
      | none =>
        rw [known] at replied
        cases replied
        obtain ⟨found, stillQuiet, same⟩ := ih (quiet.next _) remaining
        refine ⟨⟨found.sublist.cons _, ?_, ?_, found.part.trans quiet.met⟩, stillQuiet, same⟩
        · intro entry member
          obtain ⟨model, listed, told⟩ := found.entry entry member
          exact ⟨model, quiet.met _ model listed, told⟩
        · intro other member missing
          rcases List.mem_cons.mp member with rfl | later
          · exact mt found.part.mem (by simp [Std.ExtTreeMap.mem_iff_isSome_getElem?, known])
          · exact found.gone other later missing
      | some model =>
        rw [known] at replied
        cases replied
        obtain ⟨others, later, retrieved, ended⟩ := run_bind_ok remaining
        cases ended
        obtain ⟨found, stillQuiet, same⟩ := ih (quiet.next _) retrieved
        refine ⟨⟨found.sublist.cons_cons _, ?_, ?_, found.part.trans quiet.met⟩, stillQuiet, same⟩
        · intro entry member
          rcases List.mem_cons.mp member with rfl | later
          · exact ⟨model, quiet.met _ model known, rfl⟩
          · obtain ⟨other, listed, told⟩ := found.entry entry later
            exact ⟨other, quiet.met _ other listed, told⟩
        · intro other member missing
          rw [List.map_cons, List.mem_cons, not_or] at missing
          rcases List.mem_cons.mp member with rfl | later
          · exact absurd rfl missing.1
          · exact found.gone other later missing.2

theorem take_append_drop_length {α : Type} {entries : List α} (offset size : Nat) :
    (entries.drop offset).take size ++ entries.drop (offset + ((entries.drop offset).take size).length) =
      entries.drop offset := by
  rw [← List.drop_drop]
  exact List.prefix_iff_eq_append.mp (List.take_prefix size (entries.drop offset))

/-- The identifiers on a page of models that begins at an offset. -/
def modelsFrom (store : Store) (offset count : Nat) : List String :=
  (store.contents.keys.drop offset).take (effectiveLimit count)

private theorem run_allModels (quiet : shared.Quiet) (counted : shared.store.contents.size ≤ maxInt64.toNat)
    (offset count : Nat) {reply : Reply}
    (done : (allModels offset count).run.run SharedStore.answer shared = (.ok reply, after)) :
    ∃ entries, reply = .models ⟨entries, Handle.format (offset + (modelsFrom shared.met offset count).length)⟩ ∧
      Found shared.met (modelsFrom shared.met offset count) entries after.store ∧ after.Quiet ∧
      after.listings = shared.listings ++ [modelsFrom shared.met offset count] := by
  obtain ⟨listed, between, asked, rest⟩ := run_bind_ok done
  obtain ⟨store, replied, rfl⟩ := SharedStore.perform_of_answer (answered_of_ask asked)
  have answered : shared.met.perform (.listModels offset count) = (.ok (modelsFrom shared.met offset count), _) :=
    Store.perform_listModels (SharedStore.sound_met quiet.sound) (Store.isOpen_of_answered replied nofun) count
      (.inr (Nat.le_trans quiet.met.size_le counted))
  rw [answered] at replied
  cases replied
  obtain ⟨entries, later, retrieved, ended⟩ := run_bind_ok rest
  cases ended
  obtain ⟨found, stillQuiet, same⟩ := run_remainingModels _ (quiet.next _) retrieved
  have listed : (⟨.listModels offset count, shared.met⟩ : Exchange).listed? =
      some (modelsFrom shared.met offset count) := by
    change (shared.met.perform (.listModels offset count)).1.toOption = _
    rw [answered]
    rfl
  refine ⟨entries, rfl, found, stillQuiet, same.trans ?_⟩
  rw [SharedStore.listings, List.filterMap_cons, listed]
  exact List.reverse_cons

/-- A page of models begins at the offset that the handle stands for. Those that are left are found of the
models listed, and the next page's offset is behind all that was listed. -/
theorem serve_models (quiet : shared.Quiet) (counted : shared.store.contents.size ≤ maxInt64.toNat) {reply : Reply}
    (served : service.serve now (.models ⟨[], count, handle⟩) shared = (some (.ok reply), after)) :
    ∃ offset entries, Handle.parse .bits64 "model_handle" handle = .ok offset ∧
      reply = .models ⟨entries, Handle.format (offset + (modelsFrom shared.met offset count.toNat).length)⟩ ∧
      Found shared.met (modelsFrom shared.met offset count.toNat) entries after.store ∧ after.Quiet ∧
      after.listings = shared.listings ++ [modelsFrom shared.met offset count.toNat] := by
  have prepared : service.prepare now (.models ⟨[], count, handle⟩) =
      withPosition "model_handle" handle fun offset => allModels offset count.toNat := by
    rw [prepare, checkSize_of_served served]
    rfl
  obtain ⟨offset, result, parsed, done, sent⟩ := run_of_served prepared served
  obtain ⟨entries, rfl, found, stillQuiet, listings⟩ := run_allModels quiet counted offset count.toNat done
  exact ⟨offset, entries, parsed, Reply.send_eq_ok sent (by simp), found, stillQuiet, listings⟩

end Service

end ModelVault
