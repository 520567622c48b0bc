import ModelVault.Proofs.Service.Answers

/-!
Pages of all versions of a model. Positions have 64 bits and numbers 32, so a position may lie behind every
number there can be.
-/

namespace ModelVault.Service

open Storage (Store)

variable {store : Store} {modelId : String}

/-- What is prepared for a request for versions whose handle stands for a position. -/
theorem prepare_versions {service : Service} {message : Wire.VersionsRequest} {position : Nat} (now : Moment)
    (fits : (Request.versions message).checkSize service.maxMessageSize = .ok ())
    (parsed : Handle.parse .bits64 "version_handle" message.handle = .ok position) :
    service.prepare now (.versions message) = .ready
      (if message.numbers.isEmpty then allVersions message.modelId position message.count.toNat
      else someVersions message.modelId message.numbers position message.count.toNat) := by
  simp only [prepare, fits, withPosition, parsed]

/-- A page of the versions that a model lists, and the position that comes next. -/
structure VersionsPage (listed : List VersionInfo) (position count : Nat) (page : List VersionInfo) (next : Nat) :
    Prop where
  /-- The page has the first versions from the position on, as many as were asked for and a listing returns. -/
  first : page = (listed.filter (position ≤ ·.number.toNat)).take (if count = 0 then 1000 else min count 1000)
  rising : page.Pairwise fun one other => one.number < other.number
  /-- It is empty when no number is as high as the position. -/
  beyond : 4294967295 < position → page = []
  /-- What comes next is behind its last version, -/
  behind : ∀ last, page.getLast? = some last → next = last.number.toNat + 1
  /-- and the same position behind an empty page. -/
  same : page = [] → next = position

private theorem versionsPage_of_sound {model : Storage.StoredModel} (sound : model.Sound modelId)
    (position count : Nat) : VersionsPage model.infos position count (versionsFrom model position count)
      (nextPosition (versionsFrom model position count) position) where
  first := versionsFrom_eq sound position count
  rising := pairwise_versionsFrom sound position count
  beyond high := by
    rw [List.eq_nil_iff_forall_not_mem]
    intro info member
    have inside := (mem_versionsFrom sound position count member).1
    have bound := info.number.toNat_lt
    omega
  behind last ends := by rw [nextPosition, ends]
  same none := by rw [none]; rfl

private theorem answers_versions (sound : store.Sound) (opened : store.isOpen = true) {model : Storage.StoredModel}
    (found : store.contents[modelId]? = some model) {handle : String} {position : Nat}
    (accepted : Handle.parse .bits64 "version_handle" handle = .ok position) (count : UInt32) :
    store.Answers (.versions ⟨modelId, [], count, handle⟩)
      (.versions ⟨(versionsFrom model position count.toNat).map (·.entry),
        Handle.format (nextPosition (versionsFrom model position count.toNat) position)⟩) := by
  refine Store.answers_of_yields (fun service now fits => prepare_versions now fits accepted) fun calls => ?_
  obtain ⟨call, ran⟩ := @run_allVersions_known ⟨store, [], calls⟩ modelId sound opened model found position count.toNat
  exact ⟨_, ran⟩

/-- Whatever its versions have for numbers, a model that exists answers every handle that is accepted with the first
of the versions from there on, and later requests with the handle that comes next with none that was on the page. -/
theorem versions_paged (store : Store) (sound : store.Sound) (modelId : String) (known : store.Knows modelId)
    (handle : String) (position : Nat) (accepted : Handle.parse .bits64 "version_handle" handle = .ok position)
    (count : UInt32) : ∃ listed page next, store.Catalogue modelId listed ∧
      store.Answers (.versions ⟨modelId, [], count, handle⟩)
        (.versions ⟨page.map (·.entry), Handle.format next⟩) ∧
      VersionsPage listed position count.toNat page next ∧
      ∀ (later : Store) (size : UInt32), later.Sound → later.Knows modelId →
        ∃ others, later.Answers (.versions ⟨modelId, [], size, Handle.format next⟩) (.versions others) ∧
          ∀ info ∈ page, ∀ entry ∈ others.versions, info.number < entry.number := by
  obtain ⟨opened, model, found⟩ := (Store.knows_iff sound).mp known
  have modelSound := sound.model modelId
  rw [Store.model_eq found] at modelSound
  refine ⟨model.infos, versionsFrom model position count.toNat,
    nextPosition (versionsFrom model position count.toNat) position, Store.catalogue_infos sound opened found,
    answers_versions sound opened found accepted count, versionsPage_of_sound modelSound position count.toNat, ?_⟩
  intro later size laterSound still
  obtain ⟨laterOpen, laterModel, laterFound⟩ := (Store.knows_iff laterSound).mp still
  have laterModelSound := laterSound.model modelId
  rw [Store.model_eq laterFound] at laterModelSound
  have fits : nextPosition (versionsFrom model position count.toNat) position < UInt64.size := by
    by_cases none : versionsFrom model position count.toNat = []
    · rw [none]
      exact Handle.lt_of_parse accepted
    · have bounded := (nextPosition_versionsFrom modelSound position count.toNat none).2
      exact Nat.lt_of_le_of_lt bounded (by decide)
  refine ⟨_, answers_versions laterSound laterOpen laterFound (Handle.parse_format .bits64 _ fits) size, ?_⟩
  intro info member entry listed
  obtain ⟨other, otherMember, rfl⟩ := List.mem_map.mp listed
  have below := lt_nextPosition modelSound position count.toNat member
  have above := (mem_versionsFrom laterModelSound _ size.toNat otherMember).1
  exact UInt32.lt_iff_toNat_lt.mpr (Nat.lt_of_lt_of_le below above)

/-- Behind the last number there can be, the page is empty, though a version has got that number. -/
theorem versions_paged_behind_last :
    let unused : Storage.StoredModel := ⟨4294967294, ∅, ∅⟩
    let put : Storage.Event := .call (.putVersion "m" ⟨0, ⟨0, 0⟩, false, "", [7], ∅, by decide⟩)
    let store := Store.after (.nested (.live ((∅ : Std.ExtTreeMap String Storage.StoredModel).insert "m" unused))) [put]
    (store.perform (.versionInfo "m" 0)).1.toOption.map (·.number) = some 4294967295 ∧
      store.Answers (.versions ⟨"m", [], 0, "4294967296"⟩) (.versions ⟨[], "4294967296"⟩) := by
  intro unused put store
  have sound : store.Sound := by
    refine Store.sound_after ?_ [put]
    intro modelId model found
    rw [Store.contents, Std.ExtTreeMap.getElem?_insert] at found
    split at found
    · cases found
      exact ⟨by simp [unused], by simp [unused]⟩
    · simp at found
  have known : store.Knows "m" := rfl
  have accepted : Handle.parse .bits64 "version_handle" "4294967296" = .ok 4294967296 := by decide +kernel
  obtain ⟨listed, page, next, _, answers, versions, _⟩ :=
    versions_paged store sound "m" known "4294967296" 4294967296 accepted 0
  have none := versions.beyond (by decide)
  rw [none, versions.same none] at answers
  exact ⟨by decide +kernel, answers⟩

end ModelVault.Service
