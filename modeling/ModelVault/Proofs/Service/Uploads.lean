import ModelVault.Proofs.Service.Work
import Mathlib.Data.List.Induction

/-!
Uploads, message by message: which streams come in whole, where the others are refused, and that only
the header and the bytes count, not how the bytes are divided into messages.
-/

namespace ModelVault

open Wire (UploadPart VersionEntry)

theorem header_pieces_inj {version other : VersionEntry} {pieces others : List Bytes}
    (same : UploadPart.header (some version) :: pieces.map .body = .header (some other) :: others.map .body) :
    version = other ∧ pieces = others := by
  obtain ⟨sameHeader, sameBodies⟩ := List.cons_eq_cons.mp same
  exact ⟨Option.some.inj (UploadPart.header.inj sameHeader),
    (List.map_inj_right fun _ _ body => UploadPart.body.inj body).mp sameBodies⟩

namespace UploadState

/-- Where a stream leads of which no message offends: to a header and pieces of at most the announced
size. -/
inductive Leads : List UploadPart → UploadState → Prop where
  | nothing : Leads [] .opened
  | pieces (version : VersionEntry) (pieces : List Bytes)
    (fits : pieces.flatten.length ≤ version.size.toNat) :
    Leads (.header (some version) :: pieces.map .body)
      (.receiving version pieces.reverse pieces.flatten.length)

/-- A message is taken in exactly if the stream with it still leads somewhere. -/
theorem step_eq_ok {parts : List UploadPart} {state : UploadState} (leads : Leads parts state)
    (part : UploadPart) (next : UploadState) :
    state.step part = .ok next ↔ Leads (parts ++ [part]) next := by
  cases leads with
  | nothing =>
    constructor
    · intro taken
      cases part with
      | header version =>
        cases version with
        | none => cases taken
        | some version =>
          cases taken
          exact .pieces version [] (Nat.zero_le _)
      | body piece => cases taken
      | neither => cases taken
    · intro longer
      generalize listed : [] ++ [part] = parts at longer
      cases longer with
      | nothing => cases listed
      | pieces version pieces fits =>
        cases pieces with
        | nil =>
          cases listed
          rfl
        | cons piece rest => cases listed
  | pieces version pieces fits =>
    constructor
    · intro taken
      cases part with
      | body piece =>
        simp only [UploadState.step] at taken
        split at taken
        · cases taken
        · next fits' =>
          cases taken
          have longer := Leads.pieces version (pieces ++ [piece]) (by simpa using fits')
          simpa using longer
      | header other => cases taken
      | neither => cases taken
    · intro longer
      generalize listed : .header (some version) :: pieces.map UploadPart.body ++ [part] = parts at longer
      cases longer with
      | nothing => cases listed
      | pieces other more fits' =>
        obtain ⟨same, rest⟩ := List.cons_eq_cons.mp listed
        cases same
        obtain ⟨before, after, rfl, sameBefore, sameAfter⟩ := List.map_eq_append_iff.mp rest.symm
        obtain rfl := (List.map_inj_right fun _ _ same => UploadPart.body.inj same).mp sameBefore
        obtain ⟨piece, rfl, rfl⟩ := List.map_eq_singleton_iff.mp sameAfter
        simp only [List.flatten_append, List.length_append, List.flatten_singleton] at fits'
        rw [UploadState.step, if_neg (Nat.not_lt.mpr fits')]
        simp

private theorem Leads.dropLast {parts : List UploadPart} {part : UploadPart} {last : UploadState}
    (leads : Leads (parts ++ [part]) last) : ∃ state, Leads parts state := by
  generalize listed : parts ++ [part] = all at leads
  cases leads with
  | nothing => simp at listed
  | pieces version pieces fits =>
    rcases List.eq_nil_or_concat pieces with rfl | ⟨before, piece, rfl⟩
    · have nothing : parts = [] := by
        cases parts with
        | nil => rfl
        | cons first rest => simp at listed
      subst nothing
      exact ⟨_, .nothing⟩
    · rw [List.concat_eq_append, List.map_append, ← List.cons_append] at listed
      obtain ⟨rfl, _⟩ := List.append_singleton_inj.mp listed
      simp only [List.concat_eq_append, List.flatten_append, List.length_append] at fits
      exact ⟨_, .pieces version before (by omega)⟩

private theorem foldlM_single (state : UploadState) (part : UploadPart) :
    [part].foldlM UploadState.step state = state.step part := by
  simp only [List.foldlM_cons, List.foldlM_nil, bind_pure]

/-- A whole stream is taken in exactly if it leads somewhere. -/
theorem foldlM_step_eq_ok (parts : List UploadPart) (state : UploadState) :
    parts.foldlM UploadState.step .opened = .ok state ↔ Leads parts state := by
  -- A state speaks of the stream so far, which grows at its end.
  induction parts using List.reverseRecOn generalizing state with
  | nil =>
    constructor
    · intro same
      cases same
      exact .nothing
    · intro leads
      cases leads
      rfl
  | append_singleton parts part ih =>
    rw [List.foldlM_append]
    cases taken : parts.foldlM UploadState.step .opened with
    | ok before =>
      have leads := (ih before).mp taken
      rw [← step_eq_ok leads part state, ← foldlM_single]
      rfl
    | error status =>
      constructor
      · intro same
        cases same
      · intro leads
        obtain ⟨before, leadsBefore⟩ := leads.dropLast
        rw [(ih before).mpr leadsBefore] at taken
        cases taken

private theorem step_refused {state : UploadState} {part : UploadPart} {status : Status}
    (refused : state.step part = .error status) : status.code = .invalidArgument := by
  cases state with
  | opened =>
    cases part with
    | header version =>
      cases version with
      | none => cases refused; rfl
      | some version => cases refused
    | body piece => cases refused; rfl
    | neither => cases refused; rfl
  | receiving version pieces received =>
    cases part with
    | body piece =>
      simp only [UploadState.step] at refused
      split at refused
      · cases refused; rfl
      · cases refused
    | header other => cases refused; rfl
    | neither => cases refused; rfl

theorem foldlM_step_refused {parts : List UploadPart} {status : Status}
    (refused : parts.foldlM UploadState.step .opened = .error status) : status.code = .invalidArgument := by
  induction parts using List.reverseRecOn with
  | nil => cases refused
  | append_singleton parts part ih =>
    rw [List.foldlM_append] at refused
    cases taken : parts.foldlM UploadState.step .opened with
    | error other =>
      rw [taken] at refused ih
      exact ih refused
    | ok state =>
      rw [taken] at refused
      change [part].foldlM UploadState.step state = .error status at refused
      rw [foldlM_single] at refused
      exact step_refused refused

end UploadState

namespace Upload

open UploadState (Leads)

theorem incoming_messages {limit : Nat} {parts : List UploadPart}
    (fit : ∀ part ∈ parts, Wire.Message.size part ≤ limit) :
    (parts.map UploadFrame.message).map (·.receive limit) = parts.map .ok := by
  rw [List.map_map]
  apply List.map_congr_left
  intro part member
  simp only [Function.comp_apply, UploadFrame.receive, checkReceived, if_pos (fit part member)]
  rfl

theorem parts_of_messages {limit : Nat} {parts others : List UploadPart}
    (incoming : (parts.map UploadFrame.message).map (·.receive limit) = others.map .ok) : others = parts := by
  induction parts generalizing others with
  | nil => exact List.map_eq_nil_iff.mp incoming.symm
  | cons part rest ih =>
    cases others with
    | nil => cases incoming
    | cons other others =>
      obtain ⟨taken, remaining⟩ := List.cons_eq_cons.mp incoming
      rw [ih remaining]
      simp only [UploadFrame.receive] at taken
      cases checked : checkReceived limit (Wire.Message.size part) with
      | error status =>
        rw [checked] at taken
        cases taken
      | ok fits =>
        rw [checked] at taken
        exact congrArg (· :: rest) (Except.ok.inj taken).symm

private theorem receive_ok (parts : List UploadPart) :
    Upload.receive (parts.map .ok) = parts.foldlM UploadState.step .opened := by
  rw [Upload.receive, List.foldlM_map]
  rfl

/-- The messages are a header and the pieces of data that has the size and, if the header announces one,
the digest that it should have. -/
structure Complete (parts : List UploadPart) (version : VersionEntry) (data : Bytes) : Prop where
  divided : ∃ pieces : List Bytes, parts = .header (some version) :: pieces.map .body ∧ pieces.flatten = data
  size : data.length = version.size.toNat
  hash : version.hash = "" ∨ version.hash = Digest.text data

/-- No message offends: there is a header first, and then nothing but pieces of at most the announced
size. -/
def Admissible (parts : List UploadPart) : Prop :=
  parts = [] ∨ ∃ (version : VersionEntry) (pieces : List Bytes),
    parts = .header (some version) :: pieces.map .body ∧ pieces.flatten.length ≤ version.size.toNat

theorem admissible_iff (parts : List UploadPart) : Admissible parts ↔ ∃ state, Leads parts state := by
  constructor
  · rintro (rfl | ⟨version, pieces, rfl, fits⟩)
    · exact ⟨_, .nothing⟩
    · exact ⟨_, .pieces version pieces fits⟩
  · rintro ⟨state, leads⟩
    cases leads with
    | nothing => exact .inl rfl
    | pieces version pieces fits => exact .inr ⟨version, pieces, rfl, fits⟩

theorem receive_eq_ok (parts : List UploadPart) (state : UploadState) :
    Upload.receive (parts.map .ok) = .ok state ↔ Leads parts state := by
  rw [receive_ok]
  exact UploadState.foldlM_step_eq_ok parts state

theorem receive_refused {parts : List UploadPart} {status : Status}
    (refused : Upload.receive (parts.map .ok) = .error status) : status.code = .invalidArgument := by
  rw [receive_ok] at refused
  exact UploadState.foldlM_step_refused refused

/-- A refusal does not wait for what may follow, nor for the end of the stream. -/
theorem receive_append {messages : List (Except Status UploadPart)} {status : Status}
    (refused : Upload.receive messages = .error status) (more : List (Except Status UploadPart)) :
    Upload.receive (messages ++ more) = .error status := by
  rw [Upload.receive] at refused
  rw [Upload.receive, List.foldlM_append, refused]
  rfl

/-- An upload comes in whole exactly if it is complete. -/
theorem finish_eq_ok {parts : List UploadPart} {state : UploadState} (leads : Leads parts state)
    (upload : Upload) : state.finish = .ok upload ↔
      Complete parts upload.version upload.data ∧ upload.hash = Digest.text upload.data := by
  cases leads with
  | nothing =>
    constructor
    · intro same
      cases same
    · rintro ⟨⟨⟨pieces, listed, _⟩, _, _⟩, _⟩
      cases listed
  | pieces version pieces fits =>
    simp only [UploadState.finish, List.reverse_reverse]
    constructor
    · intro finished
      split at finished
      · cases finished
      · next enough =>
        split at finished
        · cases finished
        · next hash =>
          cases finished
          refine ⟨⟨⟨pieces, rfl, rfl⟩, Nat.le_antisymm fits (Nat.not_lt.mp enough), ?_⟩, rfl⟩
          rcases Decidable.em (version.hash = "") with blank | given
          · exact .inl blank
          · exact .inr (Decidable.byContradiction fun different => hash ⟨given, different⟩)
    · rintro ⟨⟨⟨others, listed, data⟩, size, hash⟩, computed⟩
      obtain ⟨rfl, rfl⟩ := header_pieces_inj listed
      rw [data, if_neg (by omega), if_neg, ← computed]
      rintro ⟨given, different⟩
      exact hash.elim given different

theorem finish_refused {state : UploadState} {status : Status} (refused : state.finish = .error status) :
    status.code = .invalidArgument := by
  cases state with
  | opened => cases refused; rfl
  | receiving version pieces received =>
    simp only [UploadState.finish] at refused
    split at refused
    · cases refused; rfl
    · split at refused
      · cases refused; rfl
      · cases refused

end Upload

namespace Service

open Storage (Backend)
open Upload (Complete Admissible)

/-- What is stored of an upload: the data, its digest, and what else the header says. -/
def storedDraft (now : Moment) (version : VersionEntry) (data : Bytes) (addressable : data.Addressable) :
    VersionDraft where
  number := version.number
  createdAt := .ofWire now version.createdAt
  archived := version.archived
  hash := Digest.text data
  data := data
  userData := version.userData
  addressable := addressable

def storing (now : Moment) (version : VersionEntry) (data : Bytes) (addressable : data.Addressable) : Storage.Call :=
  .putVersion version.modelId (storedDraft now version data addressable)

def uploaded (service : Service) (version : VersionEntry) : Except StoreError VersionInfo → Answer
  | .ok info => (Reply.uploaded ⟨some info.entry⟩).send service.maxMessageSize
  | .error refusal => .error (refusal.status ("creating a version for model " ++ Text.quoted version.modelId))

theorem uploaded_fitting {service : Service} (version : VersionEntry) {info : VersionInfo}
    (fits : Wire.Message.size (Wire.UploadReply.mk (some info.entry)) ≤ service.maxMessageSize)
    (counted : Wire.Message.size (Wire.UploadReply.mk (some info.entry)) ≤ maxFramedSize) :
    service.uploaded version (.ok info) = .ok (.uploaded ⟨some info.entry⟩) :=
  Reply.send_fitting _ fits counted

theorem replying_store (service : Service) (now : Moment) (upload : Upload)
    (computed : upload.hash = Digest.text upload.data) (addressable : upload.data.Addressable) :
    service.replying (store now upload) = .ask (storing now upload.version upload.data addressable) fun reply =>
      .done (service.uploaded upload.version reply) := by
  have draft : upload.draft now addressable = storedDraft now upload.version upload.data addressable := by
    simp only [Upload.draft, storedDraft, computed]
  rw [store, dif_pos addressable, draft]
  refine (replying_ask_bind service _ (storing now upload.version upload.data addressable)
    fun info => pure (.uploaded ⟨some (VersionInfo.entry info)⟩)).trans ?_
  apply congrArg (Dialogue.ask (storing now upload.version upload.data addressable))
  funext reply
  cases reply with
  | ok info => exact replying_pure service (.uploaded ⟨some (VersionInfo.entry info)⟩)
  | error refusal => rfl

theorem replying_store_oversized (service : Service) (now : Moment) (upload : Upload)
    (oversized : ¬upload.data.Addressable) : service.replying (store now upload) =
      .done (service.uploaded upload.version (.error (.fault (.payloadTooLarge upload.data.length)))) := by
  rw [store, dif_neg oversized]
  rfl

variable {service : Service} {frames : List UploadFrame} {parts : List UploadPart}

section Plan

variable (incoming : frames.map (·.receive service.maxMessageSize) = parts.map .ok)

include incoming

private theorem plan_stored {version : VersionEntry} {data : Bytes} (complete : Complete parts version data)
    (now : Moment) : service.plan now (.upload frames true) =
      .ready (service.replying (store now ⟨version, data, Digest.text data⟩)) := by
  obtain ⟨pieces, rfl, rfl⟩ := complete.divided
  have leads := UploadState.Leads.pieces version pieces (Nat.le_of_eq complete.size)
  have taken := (Upload.receive_eq_ok _ _).mpr leads
  have finished := (Upload.finish_eq_ok leads ⟨version, pieces.flatten, Digest.text pieces.flatten⟩).mpr
    ⟨complete, rfl⟩
  simp only [plan_upload, incoming, taken, received, finished, if_true, Plan.map]

theorem plan_complete {version : VersionEntry} {data : Bytes} (complete : Complete parts version data)
    (addressable : data.Addressable) (now : Moment) : service.plan now (.upload frames true) =
      .ready (.ask (storing now version data addressable) fun reply => .done (service.uploaded version reply)) :=
  (plan_stored incoming complete now).trans (congrArg Plan.ready (replying_store service now _ rfl addressable))

theorem plan_oversized {version : VersionEntry} {data : Bytes} (complete : Complete parts version data)
    (oversized : ¬data.Addressable) (now : Moment) : service.plan now (.upload frames true) =
      .ready (.done (service.uploaded version (.error (.fault (.payloadTooLarge data.length))))) :=
  (plan_stored incoming complete now).trans (congrArg Plan.ready (replying_store_oversized service now _ oversized))

theorem plan_incomplete (incomplete : ¬∃ version data, Complete parts version data) :
    ∃ message, ∀ now, service.plan now (.upload frames true) = .refused ⟨.invalidArgument, message⟩ := by
  cases taken : Upload.receive (parts.map .ok) with
  | error status =>
    have code := Upload.receive_refused taken
    refine ⟨status.message, fun now => ?_⟩
    simp only [plan_upload, incoming, taken, received, Plan.map, ← code]
  | ok state =>
    have leads := (Upload.receive_eq_ok parts state).mp taken
    cases finished : state.finish with
    | ok upload => exact absurd ⟨_, _, ((Upload.finish_eq_ok leads upload).mp finished).1⟩ incomplete
    | error status =>
      have code := Upload.finish_refused finished
      refine ⟨status.message, fun now => ?_⟩
      simp only [plan_upload, incoming, taken, received, finished, if_true, Plan.map, ← code]

private theorem plan_open (admissible : Admissible parts) (now : Moment) :
    ∃ state, service.plan now (.upload frames false) = .receiving state := by
  obtain ⟨state, leads⟩ := (Upload.admissible_iff parts).mp admissible
  have taken := (Upload.receive_eq_ok parts state).mpr leads
  exact ⟨state, by simp only [plan_upload, incoming, taken, received, Bool.false_eq_true, if_false, Plan.map]⟩

theorem plan_offended (offended : ¬Admissible parts) : ∃ message, ∀ now more ends,
    service.plan now (.upload (frames ++ more) ends) = .refused ⟨.invalidArgument, message⟩ := by
  cases taken : Upload.receive (parts.map .ok) with
  | ok state =>
    have leads := (Upload.receive_eq_ok parts state).mp taken
    exact absurd ((Upload.admissible_iff parts).mpr ⟨state, leads⟩) offended
  | error status =>
    have code := Upload.receive_refused taken
    refine ⟨status.message, fun now more ends => ?_⟩
    have whole := Upload.receive_append taken (more.map (·.receive service.maxMessageSize))
    simp only [plan_upload, List.map_append, incoming, whole, received, Plan.map, ← code]

private theorem plan_fitting {version : VersionEntry} {pieces : List Bytes}
    (divided : parts = .header (some version) :: pieces.map .body)
    (fits : pieces.flatten.length ≤ version.size.toNat) (now : Moment) :
    service.plan now (.upload frames true) =
      match (UploadState.receiving version [pieces.flatten] pieces.flatten.length).finish with
      | .ok upload => .ready (service.replying (store now upload))
      | .error status => .refused status := by
  subst divided
  have taken := (Upload.receive_eq_ok _ _).mpr (UploadState.Leads.pieces version pieces fits)
  have joined : (UploadState.receiving version pieces.reverse pieces.flatten.length).finish =
      (UploadState.receiving version [pieces.flatten] pieces.flatten.length).finish := by
    simp only [UploadState.finish, List.reverse_reverse, List.reverse_singleton, List.flatten_singleton]
  cases finished : (UploadState.receiving version [pieces.flatten] pieces.flatten.length).finish with
  | ok upload => simp only [plan_upload, incoming, taken, received, if_true, joined, finished, Plan.map]
  | error status => simp only [plan_upload, incoming, taken, received, if_true, joined, finished, Plan.map]

end Plan

/-- What a service makes of a stream of messages that come in well. -/
structure TakesUpload (service : Service) (frames : List UploadFrame) (parts : List UploadPart) : Prop where
  /-- It calls the store exactly for uploads that are complete, -/
  called : ∀ now, (∃ work, service.plan now (.upload frames true) = .ready work) ↔
    ∃ version data, Complete parts version data
  /-- and then once, with all data, its own digest of it and what else the header says. -/
  stored : ∀ now version data, Complete parts version data → ∀ addressable : data.Addressable,
    service.plan now (.upload frames true) = .ready (.ask (storing now version data addressable) fun reply =>
      .done (service.uploaded version reply))
  /-- Data that no machine can hold would be too large for the store. -/
  oversized : ∀ now version data, Complete parts version data → ¬data.Addressable →
    service.plan now (.upload frames true) =
      .ready (.done (service.uploaded version (.error (.fault (.payloadTooLarge data.length)))))
  /-- All others are refused as invalid, -/
  refused : (¬∃ version data, Complete parts version data) →
    ∃ message, ∀ now, service.plan now (.upload frames true) = .refused ⟨.invalidArgument, message⟩
  /-- but not before a message offends, -/
  waiting : Admissible parts → ∀ now, ∃ state, service.plan now (.upload frames false) = .receiving state
  /-- and then at once, whatever follows and whether the stream ends or not. -/
  stopped : ¬Admissible parts → ∃ message, ∀ now more ends,
    service.plan now (.upload (frames ++ more) ends) = .refused ⟨.invalidArgument, message⟩
  /-- Another division of the same data leads to the same; only when the data exceeds the announced size,
  the two refusals may differ in how much they say has come in. The clock counts where no time is given. -/
  redivided : ∀ (version : VersionEntry) (pieces otherPieces : List Bytes) (otherFrames : List UploadFrame),
    parts = .header (some version) :: pieces.map .body →
    otherFrames.map (·.receive service.maxMessageSize) =
      (.header (some version) :: otherPieces.map UploadPart.body).map .ok →
    pieces.flatten = otherPieces.flatten → ∀ now later, now = later ∨ version.createdAt ≠ 0 →
      if pieces.flatten.length ≤ version.size.toNat then
        service.plan now (.upload frames true) = service.plan later (.upload otherFrames true)
      else ∃ message otherMessage,
        service.plan now (.upload frames true) = .refused ⟨.invalidArgument, message⟩ ∧
        service.plan later (.upload otherFrames true) = .refused ⟨.invalidArgument, otherMessage⟩
  /-- In a session whose store is ready, the store answers that one call, or nothing happens to it. -/
  carriedOut : ∀ {σ : Type} [Backend σ] (session : Session σ) (headers : List Bytes), session.service = service →
    session.gate.value? = some () →
      (∀ version data, Complete parts version data → ∀ addressable : data.Addressable,
        let replied := Backend.perform (storing session.now version data addressable) session.store
        session.call (.upload frames true) headers =
          (some (service.uploaded version replied.1), { session with store := replied.2 })) ∧
      ((¬∃ version data, Complete parts version data) → ∃ message,
        session.call (.upload frames true) headers = (some (.error ⟨.invalidArgument, message⟩), session))

private theorem finish_version {version : VersionEntry} {pieces : List Bytes} {received : Nat} {upload : Upload}
    (finished : (UploadState.receiving version pieces received).finish = .ok upload) :
    upload.version = version := by
  simp only [UploadState.finish] at finished
  split at finished
  · cases finished
  · split at finished
    · cases finished
    · cases finished
      rfl

private theorem exceeding_incomplete {version : VersionEntry} {pieces : List Bytes}
    (divided : parts = .header (some version) :: pieces.map .body)
    (exceeds : ¬pieces.flatten.length ≤ version.size.toNat) : ¬∃ version data, Complete parts version data := by
  rintro ⟨other, data, ⟨⟨others, listed, rfl⟩, size, _⟩⟩
  rw [divided] at listed
  obtain ⟨rfl, rfl⟩ := header_pieces_inj listed
  exact exceeds (Nat.le_of_eq size)

private theorem draft_eq {now later : Moment} {upload : Upload}
    (timed : now = later ∨ upload.version.createdAt ≠ 0) :
    upload.draft now = upload.draft later := by
  funext addressable
  rcases timed with rfl | given
  · rfl
  · rw [Upload.draft, Upload.draft, Moment.ofWire, if_neg given, Moment.ofWire, if_neg given]

/-- Every stream of messages that come in well is taken so, by every service and in every state of the
store. -/
theorem takesUpload (service : Service) (frames : List UploadFrame) (parts : List UploadPart)
    (incoming : frames.map (·.receive service.maxMessageSize) = parts.map .ok) :
    service.TakesUpload frames parts where
  called := by
    intro now
    constructor
    · rintro ⟨work, planned⟩
      by_contra incomplete
      obtain ⟨message, refused⟩ := plan_incomplete incoming incomplete
      rw [refused now] at planned
      cases planned
    · rintro ⟨version, data, complete⟩
      exact ⟨_, plan_stored incoming complete now⟩
  stored := fun now _ _ complete addressable => plan_complete incoming complete addressable now
  oversized := fun now _ _ complete oversized => plan_oversized incoming complete oversized now
  refused := plan_incomplete incoming
  waiting := plan_open incoming
  stopped := plan_offended incoming
  redivided := by
    intro version pieces otherPieces otherFrames divided otherIncoming same now later timed
    split
    · next fits =>
      rw [plan_fitting incoming divided fits, plan_fitting otherIncoming rfl (same ▸ fits), ← same]
      cases finished : (UploadState.receiving version [pieces.flatten] pieces.flatten.length).finish with
      | error status => rfl
      | ok upload =>
        have version : upload.version = version := finish_version finished
        simp only
        rw [store, store, draft_eq (version ▸ timed)]
    · next exceeds =>
      obtain ⟨message, refused⟩ := plan_incomplete incoming (exceeding_incomplete divided exceeds)
      obtain ⟨otherMessage, otherRefused⟩ :=
        plan_incomplete otherIncoming (exceeding_incomplete rfl (same ▸ exceeds))
      exact ⟨message, otherMessage, refused now, otherRefused later⟩
  carriedOut := by
    rintro _ _ session headers rfl ready
    constructor
    · intro version data complete addressable
      exact Session.call_ask ready headers (plan_complete incoming complete addressable session.now) rfl
    · intro incomplete
      obtain ⟨message, refused⟩ := plan_incomplete incoming incomplete
      exact ⟨message, Session.call_refused headers (refused session.now)⟩

/-- Three bytes in two pieces, with an empty one in between. -/
theorem takesUpload_three_bytes :
    let version : VersionEntry := ⟨"m", 0, 1, false, "", 3, ∅⟩
    let parts : List UploadPart := .header (some version) :: [[1, 2], [], [3]].map .body
    Complete parts version [1, 2, 3] ∧
      (⟨1, none, 64⟩ : Service).TakesUpload (parts.map .message) parts := by
  intro version parts
  have fit : ∀ part ∈ parts, Wire.Message.size part ≤ 64 := by decide +kernel
  exact ⟨⟨⟨_, rfl, rfl⟩, rfl, .inl rfl⟩,
    takesUpload ⟨1, none, 64⟩ (parts.map .message) parts (Upload.incoming_messages fit)⟩

end Service

end ModelVault
