import ModelVault.Proofs.Service.Requests
import ModelVault.Proofs.Storage.Repeats

/-!
Uploads that are sent again. An upload that names its number and its time asks for the same version each
time, so a client that did not hear of its success may repeat it.
-/

namespace ModelVault

open Storage (Call Event Store)
open Wire (UploadPart VersionEntry)

namespace Service

private theorem version_of_header {service : Service} {frame : UploadFrame} {frames : List UploadFrame}
    {parts : List UploadPart} {version other : VersionEntry} {data : Bytes}
    (header : frame.receive service.maxMessageSize = .ok (.header (some version)))
    (incoming : (frame :: frames).map (·.receive service.maxMessageSize) = parts.map .ok)
    (complete : Upload.Complete parts other data) : other = version := by
  obtain ⟨pieces, rfl, _⟩ := complete.divided
  rw [List.map_cons, List.map_cons, List.cons.injEq, header] at incoming
  cases incoming.1
  rfl

private theorem plan_timed {service : Service} {frames : List UploadFrame} {parts : List UploadPart}
    {version : VersionEntry} {data : Bytes}
    (incoming : frames.map (·.receive service.maxMessageSize) = parts.map .ok)
    (complete : Upload.Complete parts version data) (timed : version.createdAt ≠ 0) (addressable : data.Addressable)
    (now later : Moment) : service.plan later (.upload frames true) =
      .ready (.ask (storing now version data addressable) fun reply => .done (service.uploaded version reply)) := by
  have draft : storedDraft later version data addressable = storedDraft now version data addressable := by
    simp only [storedDraft, Moment.ofWire, if_neg timed]
  let asking (draft : VersionDraft) : StoreDialogue Answer :=
    .ask (.putVersion version.modelId draft) fun reply => .done (service.uploaded version reply)
  exact (plan_complete incoming complete addressable later).trans (congrArg (Plan.ready <| asking ·) draft)

private theorem answered_of_uploaded {service : Service} {version : VersionEntry}
    {reply : Except StoreError VersionInfo} {sent : Reply} (done : service.uploaded version reply = .ok sent) :
    ∃ info, reply = .ok info := by
  cases reply with
  | ok info => exact ⟨info, rfl⟩
  | error refusal => cases done

end Service

namespace Session

private theorem ready_of_answered {session after : Session Store} {request : Request} {headers : List Bytes}
    {reply : Reply} (answered : session.call request headers = (some (.ok reply), after)) :
    session.gate.value? = some () ∧ ∃ work, session.service.plan session.now request = .ready work := by
  simp only [Session.call] at answered
  split at answered
  · cases answered
  · cases answered
  · next work planned =>
    refine ⟨?_, work, planned⟩
    rcases awaited : session.gate.await (session.due? headers) with ⟨outcome, gate⟩
    rw [awaited] at answered
    rcases outcome with _ | failure | done
    · cases answered
    · cases answered
    · exact Promise.value?_of_await (congrArg Prod.fst awaited)

private theorem complete_of_answered {session after : Session Store} {frames : List UploadFrame} {ends : Bool}
    {headers : List Bytes} {reply : Reply}
    (answered : session.call (.upload frames ends) headers = (some (.ok reply), after)) :
    ends = true ∧ session.gate.value? = some () ∧ ∃ parts version data,
      frames.map (·.receive session.service.maxMessageSize) = parts.map .ok ∧
      Upload.Complete parts version data ∧ data.Addressable := by
  obtain ⟨ready, work, planned⟩ := ready_of_answered answered
  obtain ⟨_, prepared, _⟩ := Service.exists_prepare planned
  obtain ⟨rfl, parts, ⟨version, data, hash⟩, incoming, complete, _, _⟩ := Service.complete_of_prepare prepared
  refine ⟨rfl, ready, parts, version, data, incoming, complete, ?_⟩
  by_contra oversized
  rw [Session.call_ready ready headers (Service.plan_oversized incoming complete oversized session.now)] at answered
  cases answered

/-- An upload that names its number and its time, and was stored, is answered alike when it is sent again, and
changes nothing then. Others may have done in between what they like, as long as they leave the version and its
model alone; the number may have been the next one before, and other versions may have come after it. -/
theorem call_upload_again {first stored second : Session Store} {frame : UploadFrame} {frames : List UploadFrame}
    {ends : Bool} {version : VersionEntry} {headers again : List Bytes} {reply : Reply} {between : List Event}
    (sound : first.store.Sound)
    (header : frame.receive first.service.maxMessageSize = .ok (.header (some version)))
    (named : version.number ≠ 0) (timed : version.createdAt ≠ 0)
    (accepted : first.call (.upload (frame :: frames) ends) headers = (some (.ok reply), stored))
    (lasting : .call .destroy ∉ between)
    (left : stored.store.LeavesAlone version.modelId version.number between)
    (service : second.service = first.service) (ready : second.gate.value? = some ())
    (shared : second.store = stored.store.after between) :
    second.call (.upload (frame :: frames) ends) again = (some (.ok reply), second) := by
  obtain ⟨rfl, wasReady, parts, other, data, incoming, complete, addressable⟩ := complete_of_answered accepted
  obtain rfl := Service.version_of_header header incoming complete
  have plan := Service.plan_timed incoming complete timed addressable first.now
  rw [Session.call_ask wasReady headers (plan first.now) rfl, Prod.mk.injEq] at accepted
  obtain ⟨answer, rfl⟩ := accepted
  have answer := Option.some.inj answer
  obtain ⟨info, answered⟩ := Service.answered_of_uploaded answer
  have repeated := Store.perform_putVersion_again sound named answered lasting left
  have replied : second.store.perform (Service.storing first.now other data addressable) =
      (.ok info, second.store) := by
    rw [shared]
    exact repeated
  rw [← service] at plan answer
  rw [answered] at answer
  exact (Session.call_ask ready again (plan second.now) replied).trans
    (congrArg (fun answer => (some answer, second)) answer)

/-- The first version of a model, whose upload is repeated when there is a second one. -/
theorem call_upload_again_first_of_two :
    let version : VersionEntry := ⟨"m", 1, 7, false, "", 1, ∅⟩
    let request : Request := .upload [.message (.header (some version)), .message (.body [5])] true
    let reply : Reply := .uploaded ⟨some ⟨"m", 1, 7, false, Digest.text [5], 1, ∅⟩⟩
    let first := Session.new ⟨1, none, 200⟩ ⟨1600000000, 5⟩ (Store.new .duckdb) true
    let stored := (first.call request []).2
    let others : List Event := [.call (.putVersion "m" ⟨0, ⟨0, 0⟩, false, "", [], ∅, by decide⟩)]
    let second : Session Store :=
      { first with now := ⟨1700000000, 0⟩, store := stored.store.after others }
    (first.call request []).1 = some (.ok reply) ∧ (second.store.model "m").latest = 2 ∧
      second.call request [] = (some (.ok reply), second) := by
  intro version request reply first stored others second
  have header : (UploadFrame.message (.header (some version))).receive 200 = .ok (.header (some version)) := by
    decide +kernel
  have accepted : (first.call request []).1 = some (.ok reply) := by decide +kernel
  have latest : (second.store.model "m").latest = 2 := by decide +kernel
  have left : stored.store.LeavesAlone "m" 1 others := by
    intro before event rest divided taken
    obtain ⟨rfl, rfl⟩ : before = [] ∧ event = .call (.putVersion "m" ⟨0, ⟨0, 0⟩, false, "", [], ∅, by decide⟩) := by
      rcases List.cons_eq_append_iff.mp divided with ⟨rfl, same⟩ | ⟨more, rfl, none⟩
      · cases same
        exact ⟨rfl, rfl⟩
      · simp at none
    cases taken with
    | replaced draft info answered numbered =>
      have told := congrArg (fun reply : Except StoreError VersionInfo => reply.toOption.map (·.number)) answered
      simp only [Except.toOption, Option.map_some, numbered] at told
      exact absurd told (by decide +kernel)
  exact ⟨accepted, latest, call_upload_again (Store.sound_new .duckdb) header (by decide) (by decide)
    (Prod.ext accepted rfl) (by decide) left rfl rfl rfl⟩

end Session

end ModelVault
