import ModelVault.Proofs.Client.RoundTrip
import ModelVault.Proofs.Service.Integrity

/-!
The times of versions that are pushed. A client may give a time, which a version keeps to the nanosecond if it is
after the start of 1970 and a signed 64-bit integer counts it; but on the wire the start of 1970 and all before it
look like no time, for which the service takes its own.
-/

namespace ModelVault

open Storage (Event Store)
open Wire (Message VersionEntry)

namespace Client

variable {client : Client} {modelId : String} {data : Bytes} {options : PushOptions} {service : Service}
  {now : Moment} {store : Store}

private theorem eq_of_complete {version : VersionEntry} {other : Bytes}
    (complete : Upload.Complete (client.uploadParts modelId data options) version other) :
    version = uploadHeader modelId data options ∧ other = data := by
  obtain ⟨pieces, divided, rfl⟩ := complete.divided
  obtain ⟨header, rfl⟩ := header_pieces_inj divided
  exact ⟨header.symm, client.flatten_uploadPieces data⟩

private theorem answered_of_push {shared after : SharedStore} {entry : VersionEntry}
    (done : (client.push modelId data options).run.run? (service.serve now) shared = (some (.ok entry), after)) :
    ∃ addressable info,
      shared.answer (Service.storing now (uploadHeader modelId data options) data addressable) = (.ok info, after) ∧
      info.entry = entry := by
  obtain ⟨reply, between, asked, ended⟩ := run?_bind_ok done
  obtain ⟨parts, version, other, addressable, info, incoming, complete, answered, rfl⟩ :=
    Service.stored_of_served (answered_of_ask asked)
  obtain rfl := Upload.parts_of_messages incoming
  obtain ⟨rfl, rfl⟩ := eq_of_complete complete
  cases ended
  exact ⟨addressable, info, answered, rfl⟩

/-- The time of a version that was pushed, as the store has it and as clients are told of it. -/
structure Dated (options : PushOptions) (now : Moment) (info : VersionInfo) : Prop where
  /-- A time after the start of 1970 that a signed 64-bit integer can count is the version's, to the nanosecond,
  whatever the clock says, -/
  given : ∀ time, options.createdAt = some time → 0 < time.nanoseconds → time.nanoseconds ≤ maxInt64 →
    info.createdAt.nanoseconds = time.nanoseconds ∧ (info.entry.createdAt.toNat : Int) = time.nanoseconds
  /-- but one that is not after the start of 1970 counts as none, and without a time the clock's is taken. -/
  clock : (∀ time, options.createdAt = some time → time.nanoseconds ≤ 0) →
    info.createdAt.nanoseconds = now.nanoseconds ∧ info.entry.createdAt = now.toWire

private theorem dated_of_kept {info : VersionInfo}
    (timely : store.kept? (.ofWire now (uploadHeader modelId data options).createdAt) = some info.createdAt) :
    Dated options now info where
  given time known late fits := by
    have header : (uploadHeader modelId data options).createdAt = time.toWire := by
      rw [uploadHeader, known]
      rfl
    have kept : info.createdAt.nanoseconds = time.nanoseconds := by
      rw [Moment.nanoseconds_of_kept timely, header, Moment.nanoseconds_ofWire_toWire now late fits]
    refine ⟨kept, ?_⟩
    rw [VersionInfo.entry, Moment.toWire_congr kept]
    exact Moment.toNat_toWire (Int.le_of_lt late) fits
  clock early := by
    have header : (uploadHeader modelId data options).createdAt = 0 := by
      rw [uploadHeader]
      cases known : options.createdAt with
      | none => rfl
      | some time => exact Moment.toWire_eq_zero (early time known)
    have kept : info.createdAt.nanoseconds = now.nanoseconds := by
      rw [Moment.nanoseconds_of_kept timely, header, Moment.ofWire, if_pos rfl]
    exact ⟨kept, Moment.toWire_congr kept⟩

private theorem dated_of_put (sound : store.Sound) {addressable : data.Addressable} {info : VersionInfo} {after : Store}
    (put : store.perform (Service.storing now (uploadHeader modelId data options) data addressable) =
      (.ok info, after)) :
    after.Holds modelId info.number ⟨info, data⟩ ∧ Dated options now info := by
  have answered := congrArg Prod.fst put
  constructor
  · have held := Store.holds_of_put sound answered
    change (store.perform (Service.storing now _ data addressable)).2.Holds _ _ _ at held
    rwa [put] at held
  · obtain ⟨time, assigned, timely, _, rfl⟩ := Store.putVersion_answered sound answered
    exact dated_of_kept timely

private theorem run?_push_accepted (sound : store.Sound) (opened : store.isOpen = true)
    (accepted : store.Accepts modelId options.number) (addressable : data.Addressable)
    (clock : (uploadHeader modelId data options).createdAt = 0 → store.kept? now ≠ none)
    (upload : ∀ part ∈ client.uploadParts modelId data options, service.Carries (Message.size part))
    (uploaded : service.Carries (Message.size (Wire.UploadReply.mk
      (some (pushedEntry modelId data options (store.numberFor modelId options.number) now))))) :
    ∃ after, (client.push modelId data options).run.run? (service.serve now) (.new store []) =
      (some (.ok (pushedEntry modelId data options (store.numberFor modelId options.number) now)), after) := by
  obtain ⟨info, after, put, told, _⟩ := perform_storing sound opened clock accepted addressable
  have incoming := Upload.incoming_messages fun part member => (upload part member).1
  have complete := client.uploadParts_complete modelId options addressable
  rw [← told] at uploaded ⊢
  have met : (SharedStore.new store []).met.perform
      (Service.storing now (uploadHeader modelId data options) data addressable) = (.ok info, after) := put
  have served : (service.serve now (.upload ((client.uploadParts modelId data options).map .message) true)
      (.new store [])).1 = some (.ok (.uploaded ⟨some info.entry⟩)) := by
    rw [Service.serve_complete incoming complete addressable, SharedStore.answer_of_perform met]
    exact congrArg some (Service.uploaded_fitting _ uploaded.1 uploaded.counted)
  exact ⟨_, run?_push_told (fun part member => (upload part member).2) (Prod.ext served rfl) uploaded.2⟩

/-- Whatever is pushed, to a store of either engine and in any state: what the push is told is what the store then
holds, with the data that was pushed and the time that is due to it. A store that takes such a version does take
it; only where no time comes over the wire must the store be able to keep the clock's. -/
theorem pushes_dated (client : Client) (modelId : String) (data : Bytes) (options : PushOptions) (service : Service)
    (now : Moment) (store : Store) (sound : store.Sound) :
    (∀ entry after,
      (client.push modelId data options).run.run? (service.serve now) (.new store []) = (some (.ok entry), after) →
        ∃ info, info.entry = entry ∧ after.store.Holds modelId entry.number ⟨info, data⟩ ∧ Dated options now info) ∧
    (store.isOpen = true → store.Accepts modelId options.number → data.Addressable →
      ((uploadHeader modelId data options).createdAt = 0 → store.kept? now ≠ none) →
      (∀ part ∈ client.uploadParts modelId data options, service.Carries (Message.size part)) →
      let entry := pushedEntry modelId data options (store.numberFor modelId options.number) now
      service.Carries (Message.size (Wire.UploadReply.mk (some entry))) → ∃ after,
        (client.push modelId data options).run.run? (service.serve now) (.new store []) =
          (some (.ok entry), after)) := by
  constructor
  · intro entry after done
    obtain ⟨_, info, answered, rfl⟩ := answered_of_push done
    obtain ⟨stored, put, rfl⟩ := SharedStore.perform_of_answer answered
    exact ⟨info, rfl, dated_of_put sound put⟩
  · exact run?_push_accepted sound

/-- The last nanosecond that a signed 64-bit integer counts, long after what the clock says. -/
theorem pushes_dated_last_nanosecond :
    let options : PushOptions := ⟨0, false, some (.ofNanoseconds maxInt64), ∅⟩
    ∃ info after, ((⟨2⟩ : Client).push "m" [7] options).run.run? (Service.serve ⟨1, none, 200⟩ ⟨1600000000, 0⟩)
        (.new (Store.new .duckdb) []) = (some (.ok info.entry), after) ∧
      after.store.Holds "m" 1 ⟨info, [7]⟩ ∧ info.createdAt.nanoseconds = maxInt64 ∧
      info.entry.createdAt = 9223372036854775807 := by
  intro options
  have dated := pushes_dated ⟨2⟩ "m" [7] options ⟨1, none, 200⟩ ⟨1600000000, 0⟩ (Store.new .duckdb)
    (Store.sound_new .duckdb)
  obtain ⟨after, pushed⟩ := dated.2 rfl (.inr ⟨by decide +kernel, .inl rfl⟩) (by decide)
    (fun _ => by decide +kernel) (by decide +kernel) (by decide +kernel)
  obtain ⟨info, told, holds, due⟩ := dated.1 _ after pushed
  obtain ⟨kept, wire⟩ := due.given _ rfl (by decide) (by decide)
  refine ⟨info, after, ?_, holds, kept, UInt64.toNat.inj ?_⟩
  · rw [told]
    exact pushed
  · exact Int.ofNat.inj wire

/-- The start of 1970 and the nanosecond before it give way to the clock, and so does the start of the year 3000,
which lies beyond what a signed 64-bit integer counts. -/
theorem push_epoch_takes_clock :
    let told (engine : Storage.Engine) (time : Moment) : Option UInt64 :=
      ((((⟨2⟩ : Client).push "m" [7] ⟨0, false, some time, ∅⟩).run.run?
        (Service.serve ⟨1, none, 200⟩ ⟨1600000000, 5⟩) (.new (Store.new engine) [])).1.bind
          (·.toOption)).map (·.createdAt)
    ∀ engine ∈ [Storage.Engine.memory, .duckdb],
      told engine ⟨0, 0⟩ = some 1600000000000000005 ∧ told engine ⟨-1, 999999999⟩ = some 1600000000000000005 ∧
        told engine ⟨32503680000, 0⟩ = some 1600000000000000005 := by
  decide +kernel

end Client

end ModelVault
