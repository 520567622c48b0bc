import ModelVault.Proofs.Client.Asking
import ModelVault.Proofs.Service.Pieces
import ModelVault.Proofs.Service.Uploads
import ModelVault.Proofs.Storage.Sparing

/-!
What a client pushes, it pulls again: the same bytes, and what it was told of them, whatever the sizes of
the pieces and whatever others do to other versions in the meantime.
-/

namespace ModelVault

open Storage (Backend Event Store)

def Session.disturbed (events : List Event) (session : Session Store) : Session Store :=
  { session with store := session.store.after events }

/-- Answer a request after others have had their turn. -/
def Session.answerAmong (request : Request) :
    Session Store × List (List Event) → Option Answer × (Session Store × List (List Event))
  | (session, []) =>
    let (answer, session) := session.call request []
    (answer, session, [])
  | (session, events :: rest) =>
    let (answer, session) := (session.disturbed events).call request []
    (answer, session, rest)

/-- A message of this many octets fits the limits of the service and of its clients. -/
def Service.Carries (service : Service) (octets : Nat) : Prop :=
  octets ≤ service.maxMessageSize ∧ octets ≤ Client.maxMessageSize

instance (service : Service) (octets : Nat) : Decidable (service.Carries octets) :=
  inferInstanceAs (Decidable (_ ∧ _))

theorem Service.Carries.counted {service : Service} {octets : Nat} (carried : service.Carries octets) :
    octets ≤ maxFramedSize :=
  Nat.le_trans carried.2 Client.maxMessageSize_le_maxFramedSize

namespace Moment

/-- Whichever engine keeps a time, it keeps all its nanoseconds. -/
theorem nanoseconds_of_kept {store : Store} {time kept : Moment} (timely : store.kept? time = some kept) :
    kept.nanoseconds = time.nanoseconds := by
  cases store with
  | nested store =>
    cases timely
    rfl
  | tabular store =>
    obtain ⟨count, counted, rfl⟩ := Option.map_eq_some_iff.mp timely
    rw [nanoseconds_ofNanoseconds]
    exact (nanoseconds?_eq_some.mp counted).2.symm

/-- A store keeps every time that comes over the wire. The clock's own is another matter. -/
theorem kept?_ofWire {store : Store} {now : Moment} {timestamp : UInt64}
    (clock : timestamp = 0 → store.kept? now ≠ none) : ∃ kept, store.kept? (ofWire now timestamp) = some kept := by
  rw [ofWire]
  split
  · next absent => exact Option.ne_none_iff_exists'.mp (clock absent)
  · next given =>
    cases store with
    | nested store => exact ⟨_, rfl⟩
    | tabular store =>
      have inside : IsInt64 (ofNanoseconds (min timestamp.toNat maxInt64)).nanoseconds := by
        rw [nanoseconds_ofNanoseconds]
        simp only [IsInt64, maxInt64]
        omega
      exact ⟨_, by rw [Store.kept?, nanoseconds?_eq_some.mpr ⟨inside, rfl⟩, Option.map_some]⟩

end Moment

open Wire (Message UploadPart VersionEntry)

namespace Client

def uploadParts (client : Client) (modelId : String) (data : Bytes) (options : PushOptions) : List UploadPart :=
  .header (some (uploadHeader modelId data options)) :: (client.uploadPieces data).map .body

/-- What is said of a version that was pushed: what the header says, with the number that it got and the
time that it has. -/
def pushedEntry (modelId : String) (data : Bytes) (options : PushOptions) (number : UInt32) (now : Moment) :
    VersionEntry :=
  { uploadHeader modelId data options with
    number := number
    createdAt := (Moment.ofWire now (uploadHeader modelId data options).createdAt).toWire }

/-- All messages of a push and a pull fit the limits of those who send and those who take them. -/
structure MessagesFit (client : Client) (service : Service) (modelId : String) (data : Bytes)
    (options : PushOptions) (entry : VersionEntry) : Prop where
  upload : ∀ part ∈ client.uploadParts modelId data options, service.Carries (Message.size part)
  uploaded : service.Carries (Message.size (Wire.UploadReply.mk (some entry)))
  query : service.Carries (Message.size (Wire.VersionsRequest.mk modelId [entry.number] 1 ""))
  version : service.Carries (Message.size (Wire.VersionsReply.mk [entry] "1"))
  download : service.Carries (Message.size (Wire.DownloadRequest.mk modelId entry.number))
  pieces : ∀ piece ∈ chunkPayload data service.chunkSize,
    service.Carries (Message.size (Wire.DownloadPart.mk piece))

theorem flatten_uploadPieces (client : Client) (data : Bytes) : (client.uploadPieces data).flatten = data := by
  rw [uploadPieces]
  split
  · next empty => rw [List.isEmpty_iff.mp empty]; rfl
  · exact flatten_chunkPayload data client.chunkSize

theorem uploadParts_complete (client : Client) (modelId : String) {data : Bytes} (options : PushOptions)
    (addressable : data.Addressable) :
    Upload.Complete (client.uploadParts modelId data options) (uploadHeader modelId data options) data where
  divided := ⟨client.uploadPieces data, rfl, client.flatten_uploadPieces data⟩
  size := by simp [uploadHeader, UInt64.toNat_ofNat_of_lt' addressable.lt_size]
  hash := .inr rfl

section Answered

variable {σ : Type} {answer : Request → σ → Option Answer × σ} {state after : σ} {modelId : String}

theorem run?_push_told {client : Client} {data : Bytes} {options : PushOptions} {entry : VersionEntry}
    (upload : ∀ part ∈ client.uploadParts modelId data options, Message.size part ≤ maxMessageSize)
    (told : answer (.upload ((client.uploadParts modelId data options).map .message) true) state =
      (some (.ok (.uploaded ⟨some entry⟩)), after))
    (fit : Message.size (Wire.UploadReply.mk (some entry)) ≤ maxMessageSize) :
    (client.push modelId data options).run.run? answer state = (some (.ok entry), after) := by
  have small : ∀ octets ∈ sizes (.upload ((client.uploadParts modelId data options).map .message) true),
      octets ≤ maxMessageSize := by
    intro octets member
    rw [sizes, List.map_map] at member
    obtain ⟨part, listed, rfl⟩ := List.mem_map.mp member
    exact upload part listed
  exact run?_ask_bind _ small told (receive_uploaded fit)

theorem run?_versions_told {numbers : List UInt32} {count : UInt32} {handle : String} {entries : List VersionEntry}
    {next : String} (query : Message.size (Wire.VersionsRequest.mk modelId numbers count handle) ≤ maxMessageSize)
    (told : answer (.versions ⟨modelId, numbers, count, handle⟩) state =
      (some (.ok (.versions ⟨entries, next⟩)), after))
    (fit : Message.size (Wire.VersionsReply.mk entries next) ≤ maxMessageSize) :
    (versions modelId numbers count handle).run.run? answer state = (some (.ok (entries, next)), after) := by
  have small : ∀ octets ∈ sizes (.versions ⟨modelId, numbers, count, handle⟩), octets ≤ maxMessageSize :=
    List.forall_mem_singleton.mpr query
  exact run?_ask_bind _ small told (receive_versions fit)

/-- Data that is given in pieces, of whatever size, is what asking for it gives. -/
theorem run?_pullData_given {number : UInt32} {data : Bytes} {chunkSize : Nat}
    (request : Message.size (Wire.DownloadRequest.mk modelId number) ≤ maxMessageSize)
    (given : answer (.download ⟨modelId, number⟩) state =
      (some (.ok (.data (chunkPayload data chunkSize) none)), after))
    (fit : ∀ piece ∈ chunkPayload data chunkSize, Message.size (Wire.DownloadPart.mk piece) ≤ maxMessageSize) :
    (pullData modelId number).run.run? answer state = (some (.ok data), after) := by
  have small : ∀ octets ∈ sizes (.download ⟨modelId, number⟩), octets ≤ maxMessageSize :=
    List.forall_mem_singleton.mpr request
  have received := receive_data fit
  -- Even without data there is a piece, and the client insists on one.
  obtain ⟨piece, others, pieces⟩ := List.exists_cons_of_ne_nil (chunkPayload_ne_nil data chunkSize)
  have whole := flatten_chunkPayload data chunkSize
  rw [pieces] at given received whole
  refine (run?_ask_bind _ small given received).trans ?_
  rw [← whole]
  rfl

end Answered

variable {session : Session Store} {store : Store} {client : Client} {modelId : String} {data : Bytes}
  {options : PushOptions} {entry : VersionEntry}

theorem perform_storing (sound : store.Sound) (opened : store.isOpen = true) {now : Moment}
    (clock : (uploadHeader modelId data options).createdAt = 0 → store.kept? now ≠ none)
    (accepted : store.Accepts modelId options.number) (addressable : data.Addressable) :
    ∃ (info : VersionInfo) (after : Store),
      store.perform (Service.storing now (uploadHeader modelId data options) data addressable) = (.ok info, after) ∧
      info.entry = pushedEntry modelId data options (store.numberFor modelId options.number) now ∧
      after.Sound ∧ after.isOpen = true ∧ after.Holds modelId info.number ⟨info, data⟩ := by
  obtain ⟨kept, timely⟩ := Moment.kept?_ofWire clock
  obtain ⟨replied, stillSound, stillOpen, holds⟩ := Store.perform_putVersion_accepted sound opened
    (Service.storedDraft now (uploadHeader modelId data options) data addressable) accepted timely
  refine ⟨_, _, Prod.ext replied rfl, ?_, stillSound, stillOpen, holds⟩
  simp only [VersionInfo.entry, VersionDraft.info, Moment.toWire_congr (Moment.nanoseconds_of_kept timely)]
  rfl

/-- The session can serve requests, and its store holds a version as it is described here. -/
structure Stored (session : Session Store) (entry : VersionEntry) (data : Bytes) : Prop where
  ready : session.gate.value? = some ()
  sound : session.store.Sound
  opened : session.store.isOpen = true
  held : ∃ info, session.store.Holds entry.modelId entry.number ⟨info, data⟩ ∧ info.entry = entry

private theorem call_upload (ready : session.gate.value? = some ()) (sound : session.store.Sound)
    (opened : session.store.isOpen = true) (accepted : session.store.Accepts modelId options.number)
    (clock : (uploadHeader modelId data options).createdAt = 0 → session.store.kept? session.now ≠ none)
    (addressable : data.Addressable)
    (named : entry = pushedEntry modelId data options (session.store.numberFor modelId options.number) session.now)
    (fit : client.MessagesFit session.service modelId data options entry) : ∃ stored : Session Store,
    session.call (.upload ((client.uploadParts modelId data options).map .message) true) [] =
      (some (.ok (.uploaded ⟨some entry⟩)), stored) ∧ stored.service = session.service ∧
      Stored stored entry data := by
  have incoming := Upload.incoming_messages fun part member => (fit.upload part member).1
  have complete := client.uploadParts_complete modelId options addressable
  have planned := Service.plan_complete incoming complete addressable session.now
  obtain ⟨info, after, replied, told, stillSound, stillOpen, holds⟩ :=
    perform_storing sound opened clock accepted addressable
  rw [← named] at told
  have sent : session.service.uploaded (uploadHeader modelId data options) (.ok info) =
      .ok (.uploaded ⟨some entry⟩) := by
    rw [← told] at fit ⊢
    exact Service.uploaded_fitting _ fit.uploaded.1 fit.uploaded.counted
  refine ⟨{ session with store := after }, ?_, rfl, ready, stillSound, stillOpen, info, ?_, told⟩
  · rw [Session.call_ask ready [] planned replied]
    exact Prod.ext (congrArg some sent) rfl
  · have owner : entry.modelId = modelId := by rw [named]; rfl
    have number : entry.number = info.number := by rw [← told]; rfl
    rwa [owner, number]

private theorem Stored.disturbed (stored : Stored session entry data) {events : List Event}
    (spared : session.store.SparesAll entry.modelId entry.number events) :
    Stored (session.disturbed events) entry data := by
  obtain ⟨ready, sound, opened, info, holds, told⟩ := stored
  obtain ⟨stillOpen, stillHolds⟩ := Store.holds_after sound opened holds spared
  exact ⟨ready, Store.sound_after sound events, stillOpen, info, stillHolds, told⟩

private theorem call_versions (stored : Stored session entry data)
    (fit : client.MessagesFit session.service entry.modelId data options entry) :
    session.call (.versions ⟨entry.modelId, [entry.number], 1, ""⟩) [] =
      (some (.ok (.versions ⟨[entry], "1"⟩)), session) := by
  obtain ⟨ready, sound, opened, info, holds, told⟩ := stored
  have asked : Backend.perform (.versionInfo entry.modelId entry.number) session.store = (.ok info, session.store) :=
    (Store.perform_held sound opened holds).1
  have prepared : session.service.prepare session.now (.versions ⟨entry.modelId, [entry.number], 1, ""⟩) =
      .ready (Service.someVersions entry.modelId [entry.number] 0 1) := by
    simp only [Service.prepare, Request.checkSize, checkReceived, if_pos fit.query.1, Service.withPosition,
      Handle.parse, if_true]
    rfl
  have named : (Service.namedVersions entry.modelId [entry.number]).run.run Backend.perform session.store =
      (.ok [entry], session.store) := by
    refine (Service.run_bind _ (Service.ask _ (.versionInfo entry.modelId entry.number))
      (fun info : VersionInfo => Service.namedVersions entry.modelId [] >>= fun rest => pure (info.entry :: rest))
      _).trans ?_
    rw [Service.run_ask asked, ← told]
    rfl
  have done : (Service.someVersions entry.modelId [entry.number] 0 1).run.run Backend.perform session.store =
      (.ok (.versions ⟨[entry], "1"⟩), session.store) := by
    have page : Service.someVersions entry.modelId [entry.number] 0 1 =
        Service.namedVersions entry.modelId [entry.number] >>= fun entries =>
          pure (Reply.versions ⟨entries, Handle.format 1⟩) := rfl
    rw [page, Service.run_bind, named]
    rfl
  have sent : (Reply.versions ⟨[entry], "1"⟩).send session.service.maxMessageSize =
      .ok (.versions ⟨[entry], "1"⟩) :=
    Reply.send_fitting _ fit.version.1 fit.version.counted
  rw [Session.call_work ready [] (Service.plan_of_prepare prepared) done, sent]

private theorem call_download (stored : Stored session entry data)
    (fit : client.MessagesFit session.service entry.modelId data options entry) :
    session.call (.download ⟨entry.modelId, entry.number⟩) [] =
      (some (.ok (.data (chunkPayload data session.service.chunkSize) none)), session) := by
  obtain ⟨ready, sound, opened, info, holds, told⟩ := stored
  have asked : Backend.perform (.versionData entry.modelId entry.number) session.store = (.ok data, session.store) :=
    (Store.perform_held sound opened holds).2
  have prepared : session.service.prepare session.now (.download ⟨entry.modelId, entry.number⟩) =
      .ready (Service.download session.service.chunkSize entry.modelId entry.number) := by
    simp only [Service.prepare, Request.checkSize, checkReceived, if_pos fit.download.1]
  have done : (Service.download session.service.chunkSize entry.modelId entry.number).run.run
      Backend.perform session.store =
        (.ok (.data (chunkPayload data session.service.chunkSize) none), session.store) := by
    refine (Service.run_bind _ (Service.ask _ (.versionData entry.modelId entry.number))
      (fun data : Bytes => pure (Reply.data (chunkPayload data session.service.chunkSize) none)) _).trans ?_
    rw [Service.run_ask asked]
    rfl
  have sent : (Reply.data (chunkPayload data session.service.chunkSize) none).send session.service.maxMessageSize =
      .ok (.data (chunkPayload data session.service.chunkSize) none) := by
    rw [Reply.send, sendPieces_fitting (fun piece member => (fit.pieces piece member).1)
      fun piece member => (fit.pieces piece member).counted]
  rw [Session.call_work ready [] (Service.plan_of_prepare prepared) done, sent]

private theorem run?_push (fit : client.MessagesFit session.service modelId data options entry) {stored : Session Store}
    (replied : session.call (.upload ((client.uploadParts modelId data options).map .message) true) [] =
      (some (.ok (.uploaded ⟨some entry⟩)), stored)) :
    (client.push modelId data options).run.run? Session.answerAmong (session, []) =
      (some (.ok entry), (stored, [])) := by
  have answered : Session.answerAmong (.upload ((client.uploadParts modelId data options).map .message) true)
      (session, []) = (some (.ok (.uploaded ⟨some entry⟩)), (stored, [])) := by
    rw [Session.answerAmong, replied]
  exact run?_push_told (fun part member => (fit.upload part member).2) answered fit.uploaded.2

private theorem run?_versions (stored : Stored session entry data)
    (fit : client.MessagesFit session.service entry.modelId data options entry) {events : List Event}
    (spared : session.store.SparesAll entry.modelId entry.number events) (rest : List (List Event)) :
    (versions entry.modelId [entry.number] 1 "").run.run? Session.answerAmong (session, events :: rest) =
      (some (.ok ([entry], "1")), (session.disturbed events, rest)) := by
  have answered : Session.answerAmong (.versions ⟨entry.modelId, [entry.number], 1, ""⟩)
      (session, events :: rest) = (some (.ok (.versions ⟨[entry], "1"⟩)), (session.disturbed events, rest)) := by
    rw [Session.answerAmong, call_versions (stored.disturbed spared) fit]
  exact run?_versions_told fit.query.2 answered fit.version.2

private theorem run?_pullData (stored : Stored session entry data)
    (fit : client.MessagesFit session.service entry.modelId data options entry) {events : List Event}
    (spared : session.store.SparesAll entry.modelId entry.number events) (rest : List (List Event)) :
    (pullData entry.modelId entry.number).run.run? Session.answerAmong (session, events :: rest) =
      (some (.ok data), (session.disturbed events, rest)) := by
  have answered : Session.answerAmong (.download ⟨entry.modelId, entry.number⟩) (session, events :: rest) =
      (some (.ok (.data (chunkPayload data session.service.chunkSize) none)), (session.disturbed events, rest)) := by
    rw [Session.answerAmong, call_download (stored.disturbed spared) fit]
    rfl
  exact run?_pullData_given fit.download.2 answered fun piece member => (fit.pieces piece member).2

private theorem run?_pull (stored : Stored session entry data) (digest : entry.hash = Digest.text data)
    (fit : client.MessagesFit session.service entry.modelId data options entry) {first second : List Event}
    (spared : session.store.SparesAll entry.modelId entry.number (first ++ second)) :
    ((pull entry.modelId entry.number).run.run? Session.answerAmong (session, [first, second])).1 =
      some (.ok (entry, data)) := by
  obtain ⟨sparedFirst, sparedSecond⟩ := Store.sparesAll_append.mp spared
  have told := run?_versions stored fit sparedFirst [second]
  have given := run?_pullData (stored.disturbed sparedFirst) fit sparedSecond []
  rw [pull, run?_bind _ told]
  dsimp only
  rw [run?_bind _ given, if_neg (not_not_intro digest.symm)]
  rfl

/-- What is pushed under a number that can be asked for is pulled again by the number that it got, along
with all that the push told of it. Others may have their turn before each of the two requests of the pull,
as long as they spare the version. -/
theorem pull_push (client : Client) (modelId : String) (data : Bytes) (options : PushOptions)
    (session : Session Store) (ready : session.gate.value? = some ()) (reachable : session.store.Reachable)
    (opened : session.store.isOpen = true) (accepted : session.store.Accepts modelId options.number)
    (clock : (uploadHeader modelId data options).createdAt = 0 → session.store.kept? session.now ≠ none)
    (addressable : data.Addressable)
    (fit : client.MessagesFit session.service modelId data options
      (pushedEntry modelId data options (session.store.numberFor modelId options.number) session.now)) :
    let entry := pushedEntry modelId data options (session.store.numberFor modelId options.number) session.now
    entry.userData = options.userData ∧ entry.archived = options.archived ∧
      entry.size.toNat = data.length ∧ entry.hash = Digest.text data ∧
      ∃ pushed : Session Store,
        (client.push modelId data options).run.run? Session.answerAmong (session, []) =
          (some (.ok entry), (pushed, [])) ∧
        ∀ first second, pushed.store.SparesAll modelId entry.number (first ++ second) →
          ((pull modelId entry.number).run.run? Session.answerAmong (pushed, [first, second])).1 =
            some (.ok (entry, data)) := by
  intro entry
  refine ⟨rfl, rfl, UInt64.toNat_ofNat_of_lt' addressable.lt_size, rfl, ?_⟩
  obtain ⟨pushed, replied, sameService, stored⟩ :=
    call_upload ready reachable.sound opened accepted clock addressable rfl fit
  refine ⟨pushed, run?_push fit replied, ?_⟩
  intro first second spared
  have fitLater : client.MessagesFit pushed.service modelId data options entry := by
    rw [sameService]
    exact fit
  exact run?_pull stored rfl fitLater spared

/-- Three octets in pieces of two, sent back in pieces of one. Another model is deleted before they are
asked for. -/
theorem pull_push_three_octets :
    let options : PushOptions := ⟨0, true, none, UserData.ofPairs [("lang", "fr")]⟩
    let session := Session.new ⟨1, none, 200⟩ ⟨1600000000, 5⟩ (Store.new .duckdb) true
    let entry := pushedEntry "m" [7, 8, 9] options 1 ⟨1600000000, 5⟩
    ∃ pushed : Session Store,
      ((⟨2⟩ : Client).push "m" [7, 8, 9] options).run.run? Session.answerAmong (session, []) =
        (some (.ok entry), (pushed, [])) ∧
      ((pull "m" 1).run.run? Session.answerAmong (pushed, [[.call (.deleteModel "n")], []])).1 =
        some (.ok (entry, [7, 8, 9])) := by
  intro options session entry
  have fit : (⟨2⟩ : Client).MessagesFit ⟨1, none, 200⟩ "m" [7, 8, 9] options entry :=
    ⟨by decide +kernel, by decide +kernel, by decide +kernel, by decide +kernel, by decide +kernel,
      by decide +kernel⟩
  obtain ⟨-, -, -, -, pushed, told, pulled⟩ := pull_push ⟨2⟩ "m" [7, 8, 9] options session
    rfl ⟨.duckdb, [], rfl⟩ rfl (.inr ⟨by decide +kernel, .inl rfl⟩) (fun _ => by decide +kernel)
    (by decide +kernel) fit
  have another : "n" ≠ "m" := by decide
  exact ⟨pushed, told, pulled [.call (.deleteModel "n")] [] ⟨another, trivial⟩⟩

end Client

end ModelVault
