import ModelVault.Proofs.Service.Requests
import ModelVault.Proofs.Service.Retrieval

/-!
Whatever requests come in, what is known of a version is true of its data: the digest and the size that the
store keeps, and those that the service tells, are those of the data which a download brings at that time.
-/

namespace ModelVault

open Storage (Call Event Store StoredVersion)

/-- The entry has the digest and the size of the data. -/
structure Wire.VersionEntry.Describes (entry : Wire.VersionEntry) (data : Bytes) : Prop where
  hash : entry.hash = Digest.text data
  size : entry.size.toNat = data.length

/-- A download brings the data, in pieces of whatever size, and leaves the store as it is. -/
def Storage.Store.Delivers (store : Store) (modelId : String) (number : UInt32) (data : Bytes) : Prop :=
  ∀ chunkSize, ∃ pieces, pieces.flatten = data ∧
    (Service.download chunkSize modelId number).run.run Store.perform store = (.ok (.data pieces none), store)

namespace Storage.Store.Filled

variable {store : Store} (filled : store.Filled) {modelId : String} {number : UInt32} {version : StoredVersion}

include filled

/-- What is told of a version that is held describes the data that is delivered. -/
theorem delivers (holds : store.Holds modelId number version) :
    store.Delivers version.info.entry.modelId version.info.entry.number version.data ∧
      version.info.entry.Describes version.data := by
  obtain ⟨owner, numbered, _⟩ := holds.described filled.sound
  obtain ⟨hash, size, bound⟩ := filled.held holds
  constructor
  · intro chunkSize
    have replied := (perform_held filled.sound filled.isOpen holds).2
    refine ⟨_, flatten_chunkPayload version.data chunkSize, ?_⟩
    rw [VersionInfo.entry, owner, numbered]
    refine (Service.run_bind _ (Service.ask _ (.versionData modelId number))
      (fun data : Bytes => pure (Reply.data (chunkPayload data chunkSize) none)) _).trans ?_
    rw [Service.run_ask replied]
    rfl
  · exact ⟨hash, by rw [VersionInfo.entry, size, UInt64.toNat_ofNat_of_lt' bound]⟩

theorem delivers_of_info {info : VersionInfo} (answered : (store.perform (.versionInfo modelId number)).1 = .ok info) :
    ∃ data, store.Delivers info.entry.modelId info.entry.number data ∧ info.entry.Describes data := by
  obtain ⟨_, key, version, means, rfl⟩ := meant_of_info filled.sound (Prod.ext answered rfl)
  exact ⟨version.data, filled.delivers means.held⟩

/-- What the store says of a version that was put describes the data that is delivered then. -/
theorem delivers_of_put {draft : VersionDraft} {info : VersionInfo}
    (put : (Call.putVersion modelId draft).Requested)
    (answered : (store.perform (.putVersion modelId draft)).1 = .ok info) :
    (store.perform (.putVersion modelId draft)).2.Delivers info.entry.modelId info.entry.number draft.data ∧
      info.entry.Describes draft.data := by
  exact (filled.perform put).delivers (holds_of_put filled.sound answered)

end Storage.Store.Filled

/-- The entry describes the data that would be delivered by a store which one of the calls has met. -/
def SharedStore.Attests (shared : SharedStore) (entry : Wire.VersionEntry) : Prop :=
  ∃ exchange ∈ shared.calls, ∃ data, exchange.store.Delivers entry.modelId entry.number data ∧ entry.Describes data

namespace Service

variable {service : Service} {now : Moment} {shared after : SharedStore} {modelId handle : String}
  {numbers : List UInt32} {count : UInt32}

private theorem run_namedVersions (requested : shared.Requested) {entries : List Wire.VersionEntry}
    (done : (namedVersions modelId numbers).run.run SharedStore.answer shared = (.ok entries, after)) :
    (∀ exchange ∈ shared.calls, exchange ∈ after.calls) ∧ ∀ entry ∈ entries, after.Attests entry := by
  induction numbers generalizing shared entries with
  | nil =>
    cases done
    exact ⟨fun _ earlier => earlier, nofun⟩
  | cons number rest ih =>
    obtain ⟨info, between, asked, remaining⟩ := run_bind_ok done
    obtain ⟨store, replied, rfl⟩ := SharedStore.perform_of_answer (answered_of_ask asked)
    obtain ⟨others, later, retrieved, ended⟩ := run_bind_ok remaining
    cases ended
    obtain ⟨rfl, _⟩ := Store.meant_of_info requested.met.sound replied
    obtain ⟨kept, attested⟩ := ih (requested.next _ requested.met) retrieved
    refine ⟨fun exchange earlier => kept exchange (List.mem_cons_of_mem _ earlier), ?_⟩
    intro entry member
    rcases List.mem_cons.mp member with rfl | other
    · obtain ⟨data, described⟩ := requested.met.delivers_of_info (congrArg Prod.fst replied)
      exact ⟨_, kept _ (List.mem_cons_self ..), data, described⟩
    · exact attested entry other

private theorem attested_of_named (requested : shared.Requested) (named : numbers ≠ []) {reply : Reply}
    (served : service.serve now (.versions ⟨modelId, numbers, count, handle⟩) shared = (some (.ok reply), after)) :
    ∃ message, reply = .versions message ∧ ∀ entry ∈ message.versions, after.Attests entry := by
  have prepared : service.prepare now (.versions ⟨modelId, numbers, count, handle⟩) =
      withPosition "version_handle" handle fun position => someVersions modelId numbers position count.toNat := by
    rw [prepare, checkSize_of_served served]
    simp only [List.isEmpty_iff, named, if_false]
  obtain ⟨position, result, _, done, sent⟩ := run_of_served prepared served
  obtain ⟨entries, later, retrieved, ended⟩ := run_bind_ok done
  cases ended
  exact ⟨_, Reply.send_eq_ok sent (by simp), (run_namedVersions requested retrieved).2⟩

private theorem attested_of_listed (requested : shared.Requested) {reply : Reply}
    (served : service.serve now (.versions ⟨modelId, [], count, handle⟩) shared = (some (.ok reply), after)) :
    ∃ message, reply = .versions message ∧ ∀ entry ∈ message.versions, after.Attests entry := by
  obtain ⟨position, model, call, _, found, rfl, rfl⟩ := serve_versions requested.filled.sound served
  refine ⟨_, rfl, ?_⟩
  intro entry member
  obtain ⟨info, listed, rfl⟩ := List.mem_map.mp member
  have modelSound := requested.met.sound.model modelId
  rw [Store.model_eq found] at modelSound
  obtain ⟨_, version, stored, rfl⟩ := mem_versionsFrom modelSound position count.toNat listed
  exact ⟨_, List.mem_cons_self .., version.data, requested.met.delivers ⟨model, found, stored⟩⟩

/-- A complete upload is stored by one call, and answered with what the store says. -/
theorem serve_complete {frames : List UploadFrame} {parts : List Wire.UploadPart} {version : Wire.VersionEntry}
    {data : Bytes} (incoming : frames.map (·.receive service.maxMessageSize) = parts.map .ok)
    (complete : Upload.Complete parts version data) (addressable : data.Addressable) :
    service.serve now (.upload frames true) shared =
      (some (service.uploaded version (shared.answer (storing now version data addressable)).1),
        (shared.answer (storing now version data addressable)).2) := by
  rw [serve, plan_complete incoming complete addressable]
  rfl

theorem stored_of_served {frames : List UploadFrame} {ends : Bool} {reply : Reply}
    (served : service.serve now (.upload frames ends) shared = (some (.ok reply), after)) :
    ∃ parts version data addressable info, frames.map (·.receive service.maxMessageSize) = parts.map .ok ∧
      Upload.Complete parts version data ∧
      shared.answer (storing now version data addressable) = (.ok info, after) ∧
      reply = .uploaded ⟨some info.entry⟩ := by
  have planned : ∃ work, service.plan now (.upload frames ends) = .ready work := by
    rw [serve] at served
    split at served
    · cases served
    · cases served
    · next work planned => exact ⟨work, planned⟩
  obtain ⟨work, planned⟩ := planned
  obtain ⟨inner, prepared, rfl⟩ := exists_prepare planned
  obtain ⟨rfl, parts, ⟨version, data, hash⟩, incoming, complete, _, rfl⟩ := complete_of_prepare prepared
  by_cases addressable : data.Addressable
  · rw [serve_complete incoming complete addressable] at served
    rcases answered : shared.answer (storing now version data addressable) with ⟨refusal | info, later⟩
    · rw [answered] at served
      cases served
    · rw [answered, Prod.mk.injEq] at served
      obtain ⟨told, rfl⟩ := served
      exact ⟨parts, version, data, addressable, info, incoming, complete, answered,
        Reply.send_eq_ok (Option.some.inj told) (by simp)⟩
  · rw [serve, plan_oversized incoming complete addressable] at served
    cases served

private theorem delivered_of_upload (requested : shared.Requested) {frames : List UploadFrame} {ends : Bool}
    {reply : Reply} (served : service.serve now (.upload frames ends) shared = (some (.ok reply), after)) :
    ∃ entry data, reply = .uploaded ⟨some entry⟩ ∧ after.store.Delivers entry.modelId entry.number data ∧
      entry.Describes data := by
  obtain ⟨parts, version, data, addressable, info, incoming, complete, answered, rfl⟩ := stored_of_served served
  obtain ⟨store, put, rfl⟩ := SharedStore.perform_of_answer answered
  have asked : (storing now version data addressable).Requested :=
    ⟨service, now, .upload frames true, _, plan_complete incoming complete addressable now, .now _ _⟩
  have described := requested.met.delivers_of_put asked (congrArg Prod.fst put)
  rw [← storing, put] at described
  exact ⟨_, data, rfl, described⟩

end Service

/-- What is true of a store that nothing but requests has filled. -/
structure Storage.Store.Intact (store : Store) : Prop where
  /-- A version that is held has the digest and the size of its data, whatever the upload declared. -/
  held : ∀ modelId number version, store.Holds modelId number version →
    version.info.hash = Digest.text version.data ∧ version.info.size = version.data.length
  /-- Whatever request is served, and whatever other requests do in the meantime, the store remains one
  that requests have filled. -/
  served : ∀ (service : Service) (now : Moment) (request : Request) (turns : List (List Event)),
    (∀ turn ∈ turns, ∀ event ∈ turn, event.Requested) →
      (service.serve now request (.new store turns)).2.store.Filled
  /-- An upload is told as the store has it then, -/
  uploaded : ∀ (service : Service) (now : Moment) (frames : List UploadFrame) (ends : Bool)
    (turns : List (List Event)) (reply : Reply) (after : SharedStore),
    (∀ turn ∈ turns, ∀ event ∈ turn, event.Requested) →
    service.serve now (.upload frames ends) (.new store turns) = (some (.ok reply), after) →
      ∃ entry data, reply = .uploaded ⟨some entry⟩ ∧ after.store.Delivers entry.modelId entry.number data ∧
        entry.Describes data
  /-- and versions are told as the store had them when it was asked, be they listed or named. -/
  told : ∀ (service : Service) (now : Moment) (message : Wire.VersionsRequest) (turns : List (List Event))
    (reply : Reply) (after : SharedStore), (∀ turn ∈ turns, ∀ event ∈ turn, event.Requested) →
    service.serve now (.versions message) (.new store turns) = (some (.ok reply), after) →
      ∃ message, reply = .versions message ∧ ∀ entry ∈ message.versions, after.Attests entry

/-- Every store that nothing but requests has filled is intact. -/
theorem Storage.Store.intact_of_filled (store : Store) (filled : store.Filled) : store.Intact where
  held modelId number version holds := by
    obtain ⟨hash, size, _⟩ := filled.held holds
    exact ⟨hash, size⟩
  served service now request turns requested := ((SharedStore.Requested.new filled requested).serve _ _ _).filled
  uploaded service now frames ends turns reply after requested served :=
    Service.delivered_of_upload (.new filled requested) served
  told service now message turns reply after requested served := by
    obtain ⟨modelId, numbers, count, handle⟩ := message
    by_cases all : numbers = []
    · subst all
      exact Service.attested_of_listed (.new filled requested) served
    · exact Service.attested_of_named (.new filled requested) all served

/-- A version that was uploaded and replaced, and an upload to replace it once more that was cut off. -/
theorem Storage.Store.intact_of_filled_replaced :
    let service : Service := ⟨2, none, 200⟩
    let upload (number : UInt32) (size : UInt64) (data : Bytes) : Request :=
      .upload [.message (.header (some ⟨"m", number, 1, false, "", size, ∅⟩)), .message (.body data)] true
    let first := (service.serve ⟨0, 0⟩ (upload 0 3 [1, 2, 3]) (.new (Store.new .duckdb) [])).2
    let second := (service.serve ⟨0, 0⟩ (upload 1 2 [8, 9]) first).2
    let store := (service.serve ⟨0, 0⟩ (upload 1 5 [4]) second).2.store
    store.Filled ∧ store.Intact ∧ (store.model "m").versions[(1 : UInt32)]?.map (·.data) = some [8, 9] := by
  intro service upload first second store
  have filled : store.Filled :=
    ((((SharedStore.Requested.new (filled_new .duckdb) (by simp)).serve service ⟨0, 0⟩ _).serve service ⟨0, 0⟩ _).serve
      service ⟨0, 0⟩ _).filled
  exact ⟨filled, intact_of_filled store filled, by decide +kernel⟩

end ModelVault
