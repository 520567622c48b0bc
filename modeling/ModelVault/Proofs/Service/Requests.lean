import ModelVault.Proofs.Service.Sharing
import ModelVault.Proofs.Service.Uploads
import ModelVault.Proofs.Storage.Origins

/-!
Stores that nothing but requests has filled: which calls requests have a service make, whatever the store
replies to them, and that a version of such a store has the digest of its data.
-/

namespace ModelVault

open Storage (Call Event Store)

namespace Dialogue

variable {Question : Type} {Reply : Question → Type} {α β : Type} {kind : Question → Prop}

/-- A dialogue may come to a question: it asks it at once, or after some reply. -/
inductive MayAsk : Dialogue Question Reply α → Question → Prop where
  | now (question : Question) (next : Reply question → Dialogue Question Reply α) :
    MayAsk (.ask question next) question
  | later (question : Question) (next : Reply question → Dialogue Question Reply α) (reply : Reply question)
    (other : Question) (asked : MayAsk (next reply) other) : MayAsk (.ask question next) other

/-- All questions that a dialogue may come to are of a kind. -/
def AsksOnly (kind : Question → Prop) (dialogue : Dialogue Question Reply α) : Prop :=
  ∀ question, dialogue.MayAsk question → kind question

theorem asksOnly_done (result : α) : (done result : Dialogue Question Reply α).AsksOnly kind := nofun

theorem asksOnly_ask {question : Question} {next : Reply question → Dialogue Question Reply α}
    (first : kind question) (rest : ∀ reply, (next reply).AsksOnly kind) : (ask question next).AsksOnly kind := by
  intro other asked
  cases asked with
  | now => exact first
  | later _ _ reply _ later => exact rest reply other later

theorem AsksOnly.next {question : Question} {next : Reply question → Dialogue Question Reply α}
    (asks : (ask question next).AsksOnly kind) (reply : Reply question) : (next reply).AsksOnly kind :=
  fun other asked => asks other (.later question next reply other asked)

theorem AsksOnly.bind {dialogue : Dialogue Question Reply α} {next : α → Dialogue Question Reply β}
    (first : dialogue.AsksOnly kind) (rest : ∀ result, (next result).AsksOnly kind) :
    (dialogue.bind next).AsksOnly kind := by
  induction dialogue with
  | done result => exact rest result
  | ask question answered ih =>
    rw [Dialogue.bind]
    exact asksOnly_ask (first question (.now question answered)) fun reply => ih reply (first.next reply)

end Dialogue

namespace Storage

/-- Some request has a service make the call, given some replies to the calls before. -/
def Call.Requested (call : Call) : Prop :=
  ∃ (service : Service) (now : Moment) (request : Request) (work : StoreDialogue Answer),
    service.plan now request = .ready work ∧ work.MayAsk call

def Event.Requested : Event → Prop
  | .call made => made.Requested
  | .reopened => True

/-- A call that puts no digest but the data's own, and that destroys nothing. -/
def Call.Honest : Call → Prop
  | putVersion _ draft => draft.hash = Digest.text draft.data
  | destroy => False
  | _ => True

end Storage

namespace Upload

theorem incoming_of_received {messages : List (Except Status Wire.UploadPart)} {state : UploadState}
    (received : Upload.receive messages = .ok state) : ∃ parts : List Wire.UploadPart, messages = parts.map .ok := by
  rw [Upload.receive] at received
  generalize UploadState.opened = start at received
  induction messages generalizing start with
  | nil => exact ⟨[], rfl⟩
  | cons message rest ih =>
    cases message with
    | error status => cases received
    | ok part =>
      rw [List.foldlM_cons] at received
      cases taken : ((Except.ok part : Except Status Wire.UploadPart) >>= start.step) with
      | error status =>
        rw [taken] at received
        cases received
      | ok next =>
        rw [taken] at received
        obtain ⟨parts, same⟩ := ih next received
        exact ⟨part :: parts, by rw [same]; rfl⟩

end Upload

namespace Service

variable {service : Service} {now : Moment} {kind : Call → Prop}

theorem asksOnly_ask {action : String} {call : Call} (asked : kind call) :
    (ask action call).run.AsksOnly kind :=
  Dialogue.asksOnly_ask asked fun _ => Dialogue.asksOnly_done _

theorem asksOnly_bind {α β : Type} {first : Work α} {next : α → Work β} (began : first.run.AsksOnly kind)
    (rest : ∀ value, (next value).run.AsksOnly kind) : (first >>= next).run.AsksOnly kind := by
  refine Dialogue.AsksOnly.bind began fun result => ?_
  cases result with
  | error status => exact Dialogue.asksOnly_done _
  | ok value => exact rest value

private theorem asksOnly_ask_bind {α : Type} {action : String} {call : Call} {next : call.Value → Work α}
    (asked : kind call) (rest : ∀ value, (next value).run.AsksOnly kind) :
    (ask action call >>= next).run.AsksOnly kind :=
  asksOnly_bind (asksOnly_ask asked) rest

private theorem namedModels_honest (modelIds : List String) :
    (namedModels modelIds).run.AsksOnly Call.Honest := by
  induction modelIds with
  | nil => exact Dialogue.asksOnly_done _
  | cons modelId rest ih =>
    exact asksOnly_ask_bind trivial fun _ => asksOnly_bind ih fun _ => Dialogue.asksOnly_done _

private theorem remainingModels_honest (modelIds : List String) :
    (remainingModels modelIds).run.AsksOnly Call.Honest := by
  induction modelIds with
  | nil => exact Dialogue.asksOnly_done _
  | cons modelId rest ih =>
    refine asksOnly_bind (Dialogue.asksOnly_ask trivial fun _ => Dialogue.asksOnly_done _) fun found => ?_
    cases found with
    | ok info => exact asksOnly_bind ih fun _ => Dialogue.asksOnly_done _
    | error refusal =>
      cases refusal with
      | unknownModel other => exact ih
      | _ => exact Dialogue.asksOnly_done _

private theorem namedVersions_honest (modelId : String) (numbers : List UInt32) :
    (namedVersions modelId numbers).run.AsksOnly Call.Honest := by
  induction numbers with
  | nil => exact Dialogue.asksOnly_done _
  | cons number rest ih =>
    exact asksOnly_ask_bind trivial fun _ => asksOnly_bind ih fun _ => Dialogue.asksOnly_done _

private theorem ready_of_withPosition {field handle : String} {next : Nat → Work Reply} {work : Work Reply}
    (prepared : withPosition field handle next = .ready work) : ∃ position, next position = work := by
  rw [withPosition] at prepared
  split at prepared
  · cases prepared
    exact ⟨_, rfl⟩
  · cases prepared

theorem complete_of_prepare {frames : List UploadFrame} {ends : Bool} {work : Work Reply}
    (prepared : service.prepare now (.upload frames ends) = .ready work) : ends = true ∧ ∃ parts upload,
      frames.map (·.receive service.maxMessageSize) = parts.map .ok ∧
      Upload.Complete parts upload.version upload.data ∧ upload.hash = Digest.text upload.data ∧
      work = store now upload := by
  change received now ends (Upload.receive (frames.map (·.receive service.maxMessageSize))) = _ at prepared
  unfold received at prepared
  split at prepared
  · cases prepared
  · next state taken =>
    split at prepared
    · next ended =>
      split at prepared
      · next upload finished =>
        obtain ⟨parts, incoming⟩ := Upload.incoming_of_received taken
        rw [incoming] at taken
        have leads := (Upload.receive_eq_ok parts state).mp taken
        obtain ⟨complete, computed⟩ := (Upload.finish_eq_ok leads upload).mp finished
        cases prepared
        exact ⟨ended, parts, upload, incoming, complete, computed, rfl⟩
      · cases prepared
    · cases prepared

private theorem store_honest {upload : Upload} (computed : upload.hash = Digest.text upload.data) :
    (store now upload).run.AsksOnly Call.Honest := by
  unfold store
  dsimp only
  split
  · exact asksOnly_ask_bind computed fun _ => Dialogue.asksOnly_done _
  · exact Dialogue.asksOnly_done _

/-- The calls that a service makes for a request are honest. -/
theorem prepare_honest {request : Request} {work : Work Reply}
    (prepared : service.prepare now request = .ready work) : work.run.AsksOnly Call.Honest := by
  cases request with
  | upload frames ends =>
    obtain ⟨_, _, upload, _, _, computed, rfl⟩ := complete_of_prepare prepared
    exact store_honest computed
  | putModel message =>
    simp only [prepare] at prepared
    split at prepared
    · cases prepared
    · split at prepared
      · cases prepared
        exact asksOnly_ask_bind trivial fun _ => Dialogue.asksOnly_done _
      · cases prepared
  | deleteModel message =>
    simp only [prepare] at prepared
    split at prepared
    · cases prepared
    · cases prepared
      exact asksOnly_ask_bind trivial fun _ => Dialogue.asksOnly_done _
  | models message =>
    simp only [prepare] at prepared
    split at prepared
    · cases prepared
    · obtain ⟨offset, rfl⟩ := ready_of_withPosition prepared
      split
      · refine asksOnly_ask_bind trivial fun listed => ?_
        exact asksOnly_bind (remainingModels_honest _) fun _ => Dialogue.asksOnly_done _
      · exact asksOnly_bind (namedModels_honest _) fun _ => Dialogue.asksOnly_done _
  | versions message =>
    simp only [prepare] at prepared
    split at prepared
    · cases prepared
    · obtain ⟨position, rfl⟩ := ready_of_withPosition prepared
      split
      · exact asksOnly_ask_bind trivial fun _ => Dialogue.asksOnly_done _
      · exact asksOnly_bind (namedVersions_honest _ _) fun _ => Dialogue.asksOnly_done _
  | download message =>
    simp only [prepare] at prepared
    split at prepared
    · cases prepared
    · cases prepared
      exact asksOnly_ask_bind trivial fun _ => Dialogue.asksOnly_done _

theorem plan_honest {request : Request} {work : StoreDialogue Answer}
    (planned : service.plan now request = .ready work) : work.AsksOnly Call.Honest := by
  obtain ⟨inner, prepared, rfl⟩ := exists_prepare planned
  exact (prepare_honest prepared).bind fun _ => Dialogue.asksOnly_done _

end Service

theorem Storage.Call.Requested.honest {call : Call} (requested : call.Requested) : call.Honest := by
  obtain ⟨service, now, request, work, planned, asked⟩ := requested
  exact Service.plan_honest planned call asked

/-- Requests never destroy a store. -/
theorem Storage.Event.Requested.lasting {events : List Event} (requested : ∀ event ∈ events, event.Requested) :
    .call .destroy ∉ events :=
  fun destroyed => Storage.Call.Requested.honest (requested _ destroyed)

namespace Storage.Store

variable {store : Store} {events : List Event}

/-- The store is what requests have made of a new one. -/
def Filled (store : Store) : Prop :=
  ∃ engine events, (∀ event ∈ events, event.Requested) ∧ store = (Store.new engine).after events

theorem filled_new (engine : Engine) : (Store.new engine).Filled := ⟨engine, [], nofun, rfl⟩

theorem isOpen_new (engine : Engine) : (Store.new engine).isOpen = true := by
  cases engine <;> rfl

theorem not_holds_new (engine : Engine) (modelId : String) (number : UInt32) (version : StoredVersion) :
    ¬(Store.new engine).Holds modelId number version := by
  rintro ⟨model, found, _⟩
  cases engine with
  | memory => simp [Store.new, NestedStore.empty, contents] at found
  | duckdb => cases found

namespace Filled

variable (filled : store.Filled)

include filled

theorem after (requested : ∀ event ∈ events, event.Requested) : (store.after events).Filled := by
  obtain ⟨engine, earlier, early, rfl⟩ := filled
  refine ⟨engine, earlier ++ events, ?_, (List.foldl_append ..).symm⟩
  intro event member
  rcases List.mem_append.mp member with before | behind
  · exact early event before
  · exact requested event behind

theorem perform {call : Call} (requested : call.Requested) : (store.perform call).2.Filled := by
  have single : ∀ event ∈ [Event.call call], event.Requested := List.forall_mem_singleton.mpr requested
  exact filled.after single

theorem sound : store.Sound := by
  obtain ⟨engine, events, _, rfl⟩ := filled
  exact sound_after (sound_new engine) events

theorem isOpen : store.isOpen = true := by
  obtain ⟨engine, events, requested, rfl⟩ := filled
  exact isOpen_after (isOpen_new engine) (sound_new engine) (Event.Requested.lasting requested)

theorem held {modelId : String} {number : UInt32} {version : StoredVersion}
    (holds : store.Holds modelId number version) : version.info.hash = Digest.text version.data ∧
      version.info.size = version.data.length ∧ version.data.length < UInt64.size := by
  obtain ⟨engine, events, requested, rfl⟩ := filled
  rcases held_before_or_written (sound_new engine) (Event.Requested.lasting requested) holds with
    early | ⟨before, draft, rest, same, writes⟩
  · exact absurd early (not_holds_new engine modelId number version)
  · have put : (Event.call (.putVersion modelId draft)).Requested := requested _ (by simp [same])
    have computed : draft.hash = Digest.text draft.data := Call.Requested.honest put
    obtain ⟨_, hash, size⟩ := info_of_putVersion (sound_after (sound_new engine) before) writes.answered
    rw [hash, size, writes.data]
    exact ⟨computed, rfl, draft.addressable.lt_size⟩

end Filled

end Storage.Store

namespace SharedStore

/-- Whoever shares the store does so by requests. -/
structure Requested (shared : SharedStore) : Prop where
  filled : shared.store.Filled
  turns : ∀ turn ∈ shared.turns, ∀ event ∈ turn, event.Requested
  /-- Also the stores that the calls so far have met were filled by requests. -/
  calls : ∀ exchange ∈ shared.calls, exchange.store.Filled

namespace Requested

theorem new {store : Store} {turns : List (List Event)} (filled : store.Filled)
    (requested : ∀ turn ∈ turns, ∀ event ∈ turn, event.Requested) : (SharedStore.new store turns).Requested where
  filled := filled
  turns := requested
  calls := nofun

variable {shared : SharedStore} (requested : shared.Requested)

include requested

theorem met : shared.met.Filled := by
  apply requested.filled.after
  cases turns : shared.turns with
  | nil => exact nofun
  | cons turn rest => exact requested.turns turn (by simp [turns])

/-- A call leads to another store that requests have filled. -/
theorem next (call : Call) {store : Store} (filled : store.Filled) :
    SharedStore.Requested ⟨store, shared.turns.tail, ⟨call, shared.met⟩ :: shared.calls⟩ where
  filled := filled
  turns turn member := requested.turns turn (List.mem_of_mem_tail member)
  calls exchange member := by
    rcases List.mem_cons.mp member with rfl | earlier
    · exact requested.met
    · exact requested.calls exchange earlier

theorem answer {call : Call} (made : call.Requested) : (shared.answer call).2.Requested :=
  requested.next call (requested.met.perform made)

theorem run {α : Type} {work : StoreDialogue α} (asks : work.AsksOnly Call.Requested) :
    (work.run SharedStore.answer shared).2.Requested := by
  induction work generalizing shared with
  | done result => exact requested
  | ask call next ih =>
    rw [Dialogue.run_ask]
    exact ih _ (requested.answer (asks call (.now call next))) (asks.next _)

theorem serve (service : Service) (now : Moment) (request : Request) :
    (service.serve now request shared).2.Requested := by
  rw [Service.serve]
  cases planned : service.plan now request with
  | refused status => exact requested
  | receiving state => exact requested
  | ready work => exact requested.run fun call asked => ⟨service, now, request, work, planned, asked⟩

end Requested

end SharedStore

end ModelVault
