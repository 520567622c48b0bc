import ModelVault.Proofs.Client.Downloads
import ModelVault.Proofs.Service.Requests

/-!
Pulling a version while others use the store. A pull is two requests, and these may meet different states of
the store: the first settles which version is meant, the second brings what that version has become.
-/

namespace ModelVault.Client

open Storage (Call Event Store StoredVersion)
open Wire (Message VersionEntry)

/-- What a client makes of an entry and of the data that came for it. -/
def verdict (modelId : String) (entry : VersionEntry) (data : Bytes) : Except ClientError (VersionEntry × Bytes) :=
  if Digest.text data = entry.hash then .ok (entry, data)
  else .error (.hashMismatch modelId entry.number entry.hash (Digest.text data))

def NoMismatch (failure : ClientError) : Prop :=
  ∀ modelId number expected actual, failure ≠ .hashMismatch modelId number expected actual

section Requests

variable {σ : Type} {answer : Request → σ → Option Answer × σ} {state after : σ} {modelId : String}

private theorem versions_ok {numbers : List UInt32} {count : UInt32} {handle : String} {entry : VersionEntry}
    {others : List VersionEntry} {next : String}
    (done : (versions modelId numbers count handle).run.run? answer state =
      (some (.ok (entry :: others, next)), after)) :
    answer (.versions ⟨modelId, numbers, count, handle⟩) state =
      (some (.ok (.versions ⟨entry :: others, next⟩)), after) := by
  obtain ⟨reply, between, asked, rest⟩ := run?_bind_ok done
  have answered := answered_of_ask asked
  cases reply with
  | versions message =>
    obtain ⟨listed, following⟩ := message
    cases rest
    exact answered
  | _ => cases rest

private theorem versions_failed {numbers : List UInt32} {count : UInt32} {handle : String} {failure : ClientError}
    (done : (versions modelId numbers count handle).run.run? answer state = (some (.error failure), after)) :
    NoMismatch failure := by
  rcases failed_of_ask_bind done with ⟨status, rfl⟩ | ⟨reply, between, rest⟩
  · exact nofun
  · cases reply with
    | _ => cases rest

private theorem pullData_ok {number : UInt32} {data : Bytes}
    (done : (pullData modelId number).run.run? answer state = (some (.ok data), after)) :
    ∃ pieces, pieces.flatten = data ∧
      answer (.download ⟨modelId, number⟩) state = (some (.ok (.data pieces none)), after) := by
  obtain ⟨reply, between, asked, rest⟩ := run?_bind_ok done
  obtain ⟨answered, received⟩ := received_of_ask asked
  cases reply with
  | data pieces failure =>
    obtain rfl := failure_of_received received
    cases pieces with
    | nil => cases rest
    | cons piece others =>
      cases rest
      exact ⟨_, rfl, answered⟩
  | _ => cases rest

private theorem pullData_failed {number : UInt32} {failure : ClientError}
    (done : (pullData modelId number).run.run? answer state = (some (.error failure), after)) :
    NoMismatch failure := by
  rcases failed_of_ask_bind done with ⟨status, rfl⟩ | ⟨reply, between, rest⟩
  · exact nofun
  · cases reply with
    | data pieces failure =>
      cases pieces with
      | nil =>
        cases rest
        exact nofun
      | cons piece others => cases rest
    | _ =>
      cases rest
      exact nofun

private theorem run?_pull_eq (number : UInt32) : (pull modelId number).run.run? answer state =
    match (versions modelId [number] 1 "").run.run? answer state with
    | (some (.ok (entry :: _, _)), between) =>
      match (pullData modelId entry.number).run.run? answer between with
      | (some (.ok data), after) => (some (verdict modelId entry data), after)
      | (some (.error failure), after) => (some (.error failure), after)
      | (none, after) => (none, after)
    | (some (.ok ([], _)), between) => (some (.error (.invalidResponse .noInfo)), between)
    | (some (.error failure), between) => (some (.error failure), between)
    | (none, between) => (none, between) := by
  rw [pull, Dialogue.run?_bind_eq]
  rcases (versions modelId [number] 1 "").run.run? answer state with
    ⟨none | failure | ⟨_ | ⟨entry, others⟩, next⟩, between⟩
  · rfl
  · rfl
  · rfl
  · dsimp only
    rw [Dialogue.run?_bind_eq]
    rcases (pullData modelId entry.number).run.run? answer between with ⟨none | failure | data, after⟩
    · rfl
    · rfl
    · dsimp only
      rw [verdict]
      by_cases same : Digest.text data = entry.hash
      · rw [if_neg (not_not_intro same), if_pos same]
        rfl
      · rw [if_pos same, if_neg same]
        rfl

end Requests

section Service

variable {service : Service} {now : Moment} {shared after : SharedStore} {modelId : String} {number : UInt32}

private theorem answered_of_told {entry : VersionEntry} {others : List VersionEntry} {next : String}
    (served : service.serve now (.versions ⟨modelId, [number], 1, ""⟩) shared =
      (some (.ok (.versions ⟨entry :: others, next⟩)), after)) :
    ∃ info, shared.answer (.versionInfo modelId number) = (.ok info, after) ∧ info.entry = entry := by
  rw [Service.serve_version (Service.checkSize_of_served served), Prod.mk.injEq] at served
  obtain ⟨told, rfl⟩ := served
  obtain ⟨info, replied, same⟩ := Service.told_eq_ok (Option.some.inj told)
  cases same
  exact ⟨info, Prod.ext replied rfl, rfl⟩

private theorem answered_of_given {pieces : List Bytes}
    (served : service.serve now (.download ⟨modelId, number⟩) shared = (some (.ok (.data pieces none)), after)) :
    shared.answer (.versionData modelId number) = (.ok pieces.flatten, after) := by
  rw [Service.serve_download (Service.checkSize_of_served served), Prod.mk.injEq] at served
  obtain ⟨given, rfl⟩ := served
  exact Prod.ext (Service.given_eq_ok (Option.some.inj given)) rfl

/-- A pull either fails for another reason than the digest, or it comes to an entry and to data that the store
gave for the number in the entry. -/
private theorem pull_cases {result : Except ClientError (VersionEntry × Bytes)}
    (pulled : (pull modelId number).run.run? (service.serve now) shared = (some result, after)) :
    (∃ failure, result = .error failure ∧ NoMismatch failure) ∨ ∃ info data between,
      shared.answer (.versionInfo modelId number) = (.ok info, between) ∧
        between.answer (.versionData modelId info.number) = (.ok data, after) ∧
        result = verdict modelId info.entry data := by
  rw [run?_pull_eq] at pulled
  rcases asked : (versions modelId [number] 1 "").run.run? (service.serve now) shared with
    ⟨none | failure | ⟨_ | ⟨entry, others⟩, next⟩, between⟩
  · simp [asked] at pulled
  · rw [asked] at pulled
    cases pulled
    exact .inl ⟨failure, rfl, versions_failed asked⟩
  · rw [asked] at pulled
    cases pulled
    exact .inl ⟨_, rfl, nofun⟩
  · rw [asked] at pulled
    obtain ⟨info, replied, rfl⟩ := answered_of_told (versions_ok asked)
    rcases came : (pullData modelId (VersionInfo.entry info).number).run.run? (service.serve now) between with
      ⟨none | failure | data, later⟩
    · simp [came] at pulled
    · simp only [came] at pulled
      cases pulled
      exact .inl ⟨failure, rfl, pullData_failed came⟩
    · simp only [came] at pulled
      cases pulled
      obtain ⟨pieces, rfl, brought⟩ := pullData_ok came
      exact .inr ⟨info, pieces.flatten, between, replied, answered_of_given brought, rfl⟩

/-- All messages of a pull fit the limits of those who send and those who take them. -/
structure PullFits (service : Service) (modelId : String) (requested : UInt32) (entry : VersionEntry) (data : Bytes) :
    Prop where
  query : service.Carries (Message.size (Wire.VersionsRequest.mk modelId [requested] 1 ""))
  version : service.Carries (Message.size (Wire.VersionsReply.mk [entry] (Handle.format 1)))
  download : service.Carries (Message.size (Wire.DownloadRequest.mk modelId entry.number))
  pieces : ∀ piece ∈ chunkPayload data service.chunkSize,
    service.Carries (Message.size (Wire.DownloadPart.mk piece))

private theorem versions_of_answer {info : VersionInfo} {data : Bytes}
    (replied : shared.answer (.versionInfo modelId number) = (.ok info, after))
    (fit : PullFits service modelId number info.entry data) :
    (versions modelId [number] 1 "").run.run? (service.serve now) shared =
      (some (.ok ([info.entry], Handle.format 1)), after) := by
  have checked : (Request.versions ⟨modelId, [number], 1, ""⟩).checkSize service.maxMessageSize = .ok () :=
    if_pos fit.query.1
  have told : service.told modelId number (.ok info) = .ok (.versions ⟨[info.entry], Handle.format 1⟩) :=
    Reply.send_fitting _ fit.version.1 fit.version.counted
  have answered : service.serve now (.versions ⟨modelId, [number], 1, ""⟩) shared =
      (some (.ok (.versions ⟨[info.entry], Handle.format 1⟩)), after) := by
    rw [Service.serve_version checked, replied]
    exact Prod.ext (congrArg some told) rfl
  exact run?_versions_told fit.query.2 answered fit.version.2

end Service

/-- What a pull comes to when others use the store between its two requests. -/
def pullAmong (service : Service) (now : Moment) (store : Store) (between : List Event) (modelId : String)
    (requested : UInt32) : Option (Except ClientError (VersionEntry × Bytes)) :=
  ((pull modelId requested).run.run? (service.serve now) (.new store [[], between])).1

/-- What can be said of such a pull. -/
structure PullsAmong (service : Service) (now : Moment) (store : Store) (between : List Event) (modelId : String)
    (requested : UInt32) : Prop where
  /-- What is returned are the entry of the version that was meant at first, and the data that the same number
  had at last, with the digest of the entry. -/
  returned : ∀ entry data, pullAmong service now store between modelId requested = some (.ok (entry, data)) →
    ∃ version later, store.Means modelId requested entry.number version ∧ version.info.entry = entry ∧
      (store.after between).Holds modelId entry.number later ∧ later.data = data ∧ Digest.text data = entry.hash
  /-- If the others neither delete nor replace the version, and no message is too long, it is returned. -/
  succeeds : ∀ number version, store.Means modelId requested number version →
    store.LeavesAlone modelId number between →
    PullFits service modelId requested version.info.entry version.data →
      pullAmong service now store between modelId requested = some (.ok (version.info.entry, version.data))
  /-- The digest is wrong only if others have put data with another digest under the number in between. -/
  mismatch : ∀ target number expected actual,
    pullAmong service now store between modelId requested =
      some (.error (.hashMismatch target number expected actual)) →
    target = modelId ∧ ∃ version before draft rest info, store.Means modelId requested number version ∧
      version.info.hash = expected ∧ between = before ++ .call (.putVersion modelId draft) :: rest ∧
      ((store.after before).perform (.putVersion modelId draft)).1 = .ok info ∧ info.number = number ∧
      Digest.text draft.data = actual ∧ actual ≠ expected

section Among

variable {service : Service} {now : Moment} {store : Store} {between : List Event} {modelId : String}
  {requested : UInt32}

private theorem meant_and_given (filled : store.Filled) {info : VersionInfo} {data : Bytes}
    {middle after : SharedStore}
    (told : (SharedStore.new store [[], between]).answer (.versionInfo modelId requested) = (.ok info, middle))
    (given : middle.answer (.versionData modelId info.number) = (.ok data, after)) :
    ∃ version later, store.Means modelId requested info.number version ∧ version.info = info ∧
      (store.after between).Holds modelId info.number later ∧ later.data = data := by
  obtain ⟨_, replied, rfl⟩ := SharedStore.perform_of_answer told
  obtain ⟨rfl, number, version, means, rfl⟩ := Store.meant_of_info filled.sound replied
  obtain ⟨_, brought, _⟩ := SharedStore.perform_of_answer given
  have number := (means.held.described filled.sound).2.1
  subst number
  obtain ⟨_, other, later, meantLater, rfl⟩ := Store.meant_of_data (Store.sound_after filled.sound between) brought
  have same : other = version.info.number := meantLater.named (means.held.positive filled.sound)
  subst same
  exact ⟨version, later, means, rfl, meantLater.held, rfl⟩

/-- A pull from a store that nothing but requests fills, which others use by requests as well. -/
theorem pulls_among (service : Service) (now : Moment) (store : Store) (between : List Event) (modelId : String)
    (requested : UInt32) (filled : store.Filled) (requests : ∀ event ∈ between, event.Requested) :
    PullsAmong service now store between modelId requested where
  returned := by
    intro entry data pulled
    rcases pull_cases (Prod.ext pulled rfl) with ⟨failure, failed, _⟩ | ⟨info, came, middle, told, given, same⟩
    · cases failed
    · obtain ⟨version, later, means, rfl, holds, rfl⟩ := meant_and_given filled told given
      rw [verdict] at same
      split at same
      · next agrees =>
        cases same
        exact ⟨version, later, means, rfl, holds, rfl, agrees⟩
      · cases same
  succeeds := by
    intro number version means left fit
    have numbered := (means.held.described filled.sound).2.1
    subst numbered
    have stays := means.held.after filled.sound (Event.Requested.lasting requests) left
    have later := filled.after requests
    let asked : SharedStore := ⟨store, [between], [⟨.versionInfo modelId requested, store⟩]⟩
    have told : (SharedStore.new store [[], between]).answer (.versionInfo modelId requested) =
        (.ok version.info, asked) :=
      SharedStore.answer_of_perform (Store.perform_meant filled.sound filled.isOpen means).1
    have given : asked.answer (.versionData modelId version.info.entry.number) = (.ok version.data, _) :=
      SharedStore.answer_of_perform (Store.perform_held later.sound later.isOpen stays).2
    have agrees : Digest.text version.data = version.info.entry.hash := (filled.held means.held).1.symm
    rw [pullAmong, run?_pull_eq, versions_of_answer told fit]
    dsimp only
    rw [run?_pullData_fitting given fit.download fit.pieces]
    exact congrArg some (if_pos agrees)
  mismatch := by
    intro target number expected actual pulled
    rcases pull_cases (Prod.ext pulled rfl) with ⟨failure, failed, another⟩ | ⟨info, came, middle, told, given, same⟩
    · cases failed
      exact absurd rfl (another target number expected actual)
    · obtain ⟨version, later, means, rfl, holds, rfl⟩ := meant_and_given filled told given
      rw [verdict] at same
      split at same
      · cases same
      · next differs =>
        cases same
        refine ⟨rfl, version, ?_⟩
        rcases Store.held_before_or_written filled.sound (Event.Requested.lasting requests) holds with
          early | ⟨before, draft, rest, split, writes⟩
        · rw [means.held.unique early] at differs
          exact absurd (filled.held early).1.symm differs
        · rw [writes.data] at differs
          rw [writes.data]
          exact ⟨before, draft, rest, later.info, means, rfl, split, writes.answered, writes.numbered, rfl, differs⟩

end Among

/-- The highest version is pulled while a higher one is put: what comes is still the version that was the
highest. -/
theorem pulls_among_newer :
    let service : Service := ⟨2, none, 200⟩
    let header (size : UInt64) : VersionEntry := ⟨"m", 0, 1, false, "", size, ∅⟩
    let first : Request := .upload ([.header (some (header 3)), .body [1, 2, 3]].map .message) true
    let store := (service.serve ⟨0, 0⟩ first (.new (Store.new .duckdb) [])).2.store
    let between : List Event := [.call (Service.storing ⟨0, 0⟩ (header 2) [4, 5] (by decide))]
    PullsAmong service ⟨0, 0⟩ store between "m" 0 ∧
      ((pullAmong service ⟨0, 0⟩ store between "m" 0).bind (·.toOption)).map (·.2) = some [1, 2, 3] ∧
      (pullAmong service ⟨0, 0⟩ (store.after between) [] "m" 0).bind (·.toOption) ≠
        (pullAmong service ⟨0, 0⟩ store between "m" 0).bind (·.toOption) := by
  intro service header first store between
  have filled : store.Filled :=
    ((SharedStore.Requested.new (Store.filled_new .duckdb) (by simp)).serve service ⟨0, 0⟩ first).filled
  have requests : ∀ event ∈ between, event.Requested := by
    let parts : List Wire.UploadPart := [.header (some (header 2)), .body [4, 5]]
    have fit : ∀ part ∈ parts, Message.size part ≤ 200 := by decide +kernel
    have complete : Upload.Complete parts (header 2) [4, 5] := ⟨⟨[[4, 5]], rfl, rfl⟩, rfl, .inl rfl⟩
    intro event member
    rw [List.mem_singleton.mp member]
    have planned := service.plan_complete (Upload.incoming_messages fit) complete (by decide) ⟨0, 0⟩
    exact ⟨service, ⟨0, 0⟩, _, _, planned, .now _ _⟩
  exact ⟨pulls_among service ⟨0, 0⟩ store between "m" 0 filled requests, by decide +kernel, by decide +kernel⟩

end ModelVault.Client
