import ModelVault.CommandLine.Execution
import ModelVault.Proofs.Client.RoundTrip
import ModelVault.Proofs.Service.Retrieval

/-!
Downloads and the limits on messages: a piece is not all that its message holds. The configuration of a server
bounds the pieces and the messages, and clients have a limit of their own.
-/

namespace ModelVault

open Storage (Call Event Store)
open Wire (DownloadPart DownloadRequest Message)

/-- The octets of the longest message that a payload is sent in. -/
def Service.longestMessage (service : Service) (data : Bytes) : Nat :=
  framed (min service.chunkSize data.length)

namespace Client

variable {service : Service} {now : Moment} {shared after : SharedStore} {modelId : String} {number : UInt32}
  {data : Bytes} (replied : shared.answer (.versionData modelId number) = (.ok data, after))
  (request : service.Carries (Message.size (DownloadRequest.mk modelId number)))

include replied request

omit request in
private theorem serve_given (incoming : Message.size (DownloadRequest.mk modelId number) ≤ service.maxMessageSize) :
    service.serve now (.download ⟨modelId, number⟩) shared =
      (some ((Reply.data (chunkPayload data service.chunkSize) none).send service.maxMessageSize), after) := by
  have checked : (Request.download ⟨modelId, number⟩).checkSize service.maxMessageSize = .ok () := if_pos incoming
  rw [Service.serve_download checked, replied]
  rfl

theorem run?_pullData_fitting (fit : ∀ piece ∈ chunkPayload data service.chunkSize,
    service.Carries (Message.size (DownloadPart.mk piece))) :
    (pullData modelId number).run.run? (service.serve now) shared = (some (.ok data), after) := by
  have answered : service.serve now (.download ⟨modelId, number⟩) shared =
      (some (.ok (.data (chunkPayload data service.chunkSize) none)), after) := by
    rw [serve_given replied request.1, Reply.send, sendPieces_fitting (fun piece member => (fit piece member).1)
      fun piece member => (fit piece member).counted]
  exact run?_pullData_given request.2 answered fun piece member => (fit piece member).2

theorem run?_pullData_long (positive : 0 < service.chunkSize) (long : ¬service.Carries (service.longestMessage data)) :
    ∃ status, (pullData modelId number).run.run? (service.serve now) shared =
        (some (.error (.refused status)), after) ∧
      (service.longestMessage data ≤ maxFramedSize → status.code = .outOfRange) := by
  have small : ∀ octets ∈ sizes (.download ⟨modelId, number⟩), octets ≤ maxMessageSize :=
    List.forall_mem_singleton.mpr request.2
  by_cases sent : service.longestMessage data ≤ service.maxMessageSize ∧ service.longestMessage data ≤ maxFramedSize
  · have answered : service.serve now (.download ⟨modelId, number⟩) shared =
        (some (.ok (.data (chunkPayload data service.chunkSize) none)), after) := by
      rw [serve_given replied request.1, Reply.send, sendPieces_fitting ((framed_le_iff positive _).mpr sent.1)
        ((framed_le_iff positive _).mpr sent.2)]
    have untaken : ¬service.longestMessage data ≤ maxMessageSize := fun taken => long ⟨sent.1, taken⟩
    obtain ⟨status, refused, code⟩ := receive_data_refused _ none (.inl (exists_long_piece positive untaken))
    exact ⟨status, run?_ask_bind_refused _ small answered refused, fun _ => code.resolve_right (by simp)⟩
  · have longPiece : ∃ piece ∈ chunkPayload data service.chunkSize,
        ¬(Message.size (DownloadPart.mk piece) ≤ service.maxMessageSize ∧
          Message.size (DownloadPart.mk piece) ≤ maxFramedSize) := by
      obtain ⟨piece, member, length⟩ := exists_longest_piece data positive
      exact ⟨piece, member, by rwa [size_downloadPart, length]⟩
    obtain ⟨pieces, faulty, listed, failure, checked, broken⟩ := sendPieces_breaking longPiece
    have answered : service.serve now (.download ⟨modelId, number⟩) shared =
        (some (.ok (.data pieces (some failure))), after) := by
      rw [serve_given replied request.1, Reply.send, broken]
    obtain ⟨status, refused, code⟩ := receive_data_refused pieces (some failure) (.inr (by simp))
    refine ⟨status, run?_ask_bind_refused _ small answered refused, fun counted => ?_⟩
    rcases code with long | same
    · exact long
    · cases same
      rcases code_of_checkSent checked with ⟨_, long⟩ | ⟨uncounted, _⟩
      · exact long
      · exact absurd ((framed_le_iff positive _).mpr counted faulty listed) (Nat.not_le.mpr uncounted)

end Client

namespace Config

/-- What a configuration that is accepted says of the two sizes. -/
theorem sizes_of_accepted {config : Config} (accepted : config.validate = .ok ()) :
    0 < config.service.chunkSize ∧ config.service.chunkSize ≤ config.service.maxMessageSize := by
  obtain ⟨-, nonzero, ordered, -⟩ := validate_eq_ok.mp accepted
  exact ⟨Nat.pos_of_ne_zero fun zero => nonzero (UInt64.toNat_inj.mp zero), UInt64.le_iff_toNat_le.mp ordered⟩

/-- How a payload fares that the store gives under a configuration: in which messages it is sent, and when
these reach a client. -/
structure Downloads (config : Config) (now : Moment) (shared : SharedStore) (modelId : String) (number : UInt32)
    (data : Bytes) : Prop where
  /-- No piece is longer than the configuration says, and that is no more than a message may take. -/
  pieces : ∀ piece ∈ chunkPayload data config.service.chunkSize,
    piece.length ≤ config.chunkSize.toNat ∧ config.chunkSize.toNat ≤ config.maxMessageSize.toNat
  /-- The message of a piece also holds a key and a length, -/
  encoded : ∀ piece ∈ chunkPayload data config.service.chunkSize,
    (Message.encode (DownloadPart.mk piece)).length = framed piece.length ∧
      framed piece.length ≤ config.service.longestMessage data
  /-- and where the longest message is not too long with these, nor for its length to be counted, the server sends
  the whole payload. -/
  sent : Message.size (DownloadRequest.mk modelId number) ≤ config.maxMessageSize.toNat →
    config.service.longestMessage data ≤ config.maxMessageSize.toNat →
    config.service.longestMessage data ≤ maxFramedSize →
      (config.service.serve now (.download ⟨modelId, number⟩) shared).1 =
        some (.ok (.data (chunkPayload data config.service.chunkSize) none))
  /-- The client gets it exactly if the message is not too long for it either, -/
  taken : config.service.Carries (Message.size (DownloadRequest.mk modelId number)) →
    (((Client.pullData modelId number).run.run? (config.service.serve now) shared).1 = some (.ok data) ↔
      config.service.longestMessage data ≤ config.maxMessageSize.toNat ∧
        config.service.longestMessage data ≤ Client.maxMessageSize)
  /-- and is refused otherwise. -/
  refused : config.service.Carries (Message.size (DownloadRequest.mk modelId number)) →
    ¬config.service.Carries (config.service.longestMessage data) →
      ∃ status, ((Client.pullData modelId number).run.run? (config.service.serve now) shared).1 =
        some (.error (.refused status))
  /-- Where both can take a full piece with its key and length, the length of the payload does not matter. -/
  always : config.service.Carries (Message.size (DownloadRequest.mk modelId number)) →
    config.service.Carries (framed config.chunkSize.toNat) →
      ((Client.pullData modelId number).run.run? (config.service.serve now) shared).1 = some (.ok data)

/-- Payloads fare so under every configuration that is accepted. -/
theorem downloads_of_accepted (config : Config) (now : Moment) (shared : SharedStore) (modelId : String)
    (number : UInt32) (data : Bytes) (accepted : config.validate = .ok ())
    (gives : (shared.met.perform (.versionData modelId number)).1 = .ok data) :
    config.Downloads now shared modelId number data := by
  obtain ⟨positive, ordered⟩ := sizes_of_accepted accepted
  have replied : shared.answer (.versionData modelId number) = (.ok data, _) :=
    SharedStore.answer_of_perform (Prod.ext gives rfl)
  have fitting : ∀ {limit : Nat}, config.service.longestMessage data ≤ limit →
      ∀ piece ∈ chunkPayload data config.service.chunkSize, Message.size (DownloadPart.mk piece) ≤ limit :=
    fun fits => (framed_le_iff positive _).mpr fits
  have pulled : config.service.Carries (Message.size (DownloadRequest.mk modelId number)) →
      config.service.Carries (config.service.longestMessage data) →
        ((Client.pullData modelId number).run.run? (config.service.serve now) shared).1 = some (.ok data) := by
    intro request fits
    rw [Client.run?_pullData_fitting replied request fun piece member =>
      ⟨fitting fits.1 piece member, fitting fits.2 piece member⟩]
  have untaken : config.service.Carries (Message.size (DownloadRequest.mk modelId number)) →
      ¬config.service.Carries (config.service.longestMessage data) →
        ∃ status, ((Client.pullData modelId number).run.run? (config.service.serve now) shared).1 =
          some (.error (.refused status)) := by
    intro request long
    obtain ⟨status, refused, _⟩ := Client.run?_pullData_long replied request positive long
    exact ⟨status, congrArg Prod.fst refused⟩
  constructor
  · intro piece member
    have bound := length_le_of_mem_chunkPayload positive member
    exact ⟨Nat.le_trans bound (Nat.min_le_left _ _), ordered⟩
  · intro piece member
    rw [Message.length_encode, size_downloadPart]
    exact ⟨rfl, framed_le_framed (length_le_of_mem_chunkPayload positive member)⟩
  · intro incoming fits counted
    have whole : sendPieces config.service.maxMessageSize _ = (_, none) :=
      sendPieces_fitting (fitting fits) (fitting counted)
    rw [Client.serve_given replied incoming, Reply.send, whole]
  · intro request
    refine ⟨fun done => ?_, pulled request⟩
    by_contra long
    obtain ⟨status, refused⟩ := untaken request long
    rw [refused] at done
    cases done
  · exact untaken
  · intro request room
    have shorter : config.service.longestMessage data ≤ framed config.chunkSize.toNat :=
      framed_le_framed (Nat.min_le_left _ _)
    exact pulled request ⟨Nat.le_trans shorter room.1, Nat.le_trans shorter room.2⟩

/-- Five octets in pieces of two: a message takes at most four of the six octets that it may take. -/
theorem downloads_of_accepted_five_octets :
    let config : Config := ⟨"127.0.0.1", 9002, none, 6, none, none, none, "memory", ":memory:", 2⟩
    let draft : VersionDraft := ⟨0, ⟨0, 0⟩, false, "", [1, 2, 3, 4, 5], ∅, by decide⟩
    let shared := SharedStore.new ((Store.new .memory).after [.call (.putVersion "m" draft)]) []
    config.validate = .ok () ∧ config.Downloads ⟨0, 0⟩ shared "m" 1 [1, 2, 3, 4, 5] ∧
      ((Client.pullData "m" 1).run.run? (config.service.serve ⟨0, 0⟩) shared).1 = some (.ok [1, 2, 3, 4, 5]) := by
  intro config draft shared
  have accepted : config.validate = .ok () := rfl
  have downloads := downloads_of_accepted config ⟨0, 0⟩ shared "m" 1 [1, 2, 3, 4, 5] accepted rfl
  exact ⟨accepted, downloads, downloads.always (by decide +kernel) (by decide +kernel)⟩

/-- A store with one version, which has this data. -/
def holding (data : Bytes) (addressable : data.Addressable) : Store :=
  ((Store.new .memory).perform (.putVersion "m" ⟨0, ⟨0, 0⟩, false, Digest.text data, data, ∅, addressable⟩)).2

private theorem holding_gives (data : Bytes) (addressable : data.Addressable) :
    ((holding data addressable).perform (.versionData "m" 1)).1 = .ok data := by
  have accepted : (Store.new .memory).Accepts "m" 0 := .inr ⟨by decide +kernel, .inl rfl⟩
  have next : (Store.new .memory).numberFor "m" 0 = 1 := by decide +kernel
  obtain ⟨_, sound, opened, holds⟩ := Store.perform_putVersion_accepted (Store.sound_new .memory) rfl
    ⟨0, ⟨0, 0⟩, false, Digest.text data, data, ∅, addressable⟩ accepted rfl
  have numbered : (holding data addressable).Holds "m" 1 _ := next ▸ holds
  exact congrArg Prod.fst (Store.perform_held sound opened numbered).2

/-- The pull of that version by a client of a server with this configuration. -/
def pullsHolding (config : Config) (data : Bytes) (addressable : data.Addressable) :
    Option (Except ClientError Bytes) :=
  ((Client.pullData "m" 1).run.run? (config.service.serve ⟨0, 0⟩) (.new (holding data addressable) [])).1

private theorem pullsHolding_refused (config : Config) (data : Bytes) (addressable : data.Addressable)
    (positive : 0 < config.service.chunkSize)
    (request : config.service.Carries (Message.size (DownloadRequest.mk "m" 1)))
    (long : ¬config.service.Carries (config.service.longestMessage data))
    (counted : config.service.longestMessage data ≤ maxFramedSize) :
    (∃ piece ∈ chunkPayload data config.service.chunkSize,
      (Message.encode (DownloadPart.mk piece)).length = config.service.longestMessage data) ∧
    ∃ message, config.pullsHolding data addressable = some (.error (.refused ⟨.outOfRange, message⟩)) := by
  constructor
  · obtain ⟨piece, member, length⟩ := exists_longest_piece data positive
    exact ⟨piece, member, by rw [Message.length_encode, size_downloadPart, length]; rfl⟩
  · have replied : (SharedStore.new (holding data addressable) []).answer (.versionData "m" 1) = (.ok data, _) :=
      SharedStore.answer_of_perform (Prod.ext (holding_gives data addressable) rfl)
    obtain ⟨⟨code, message⟩, refused, outOfRange⟩ := Client.run?_pullData_long replied request positive long
    cases outOfRange counted
    exact ⟨message, congrArg Prod.fst refused⟩

private theorem zeros_addressable {count : Nat} (fits : (count : Int) ≤ maxInt64) :
    Bytes.Addressable (List.replicate count 0) := by
  rw [Bytes.Addressable, List.length_replicate]
  exact fits

/-- Two accepted configurations with a payload that is as long as a piece. With pieces as long as messages, the
message of the piece is longer than the server sends; with larger messages, it is longer than a client takes. Either
way the payload cannot be pulled. -/
theorem accepted_piece_refused :
    let config (limit chunkSize : UInt64) : Config :=
      ⟨"127.0.0.1", 9002, none, limit, none, none, none, "memory", ":memory:", chunkSize⟩
    let tight := config 256 256
    let wide := config 33554432 16777216
    let short : Bytes := List.replicate 256 0
    let long : Bytes := List.replicate 16777216 0
    (tight.validate = .ok () ∧
      (∃ piece ∈ chunkPayload short tight.service.chunkSize,
        tight.service.maxMessageSize < (Message.encode (DownloadPart.mk piece)).length) ∧
      ∃ addressable message, tight.pullsHolding short addressable = some (.error (.refused ⟨.outOfRange, message⟩))) ∧
    (wide.validate = .ok () ∧
      (∃ piece ∈ chunkPayload long wide.service.chunkSize,
        (Message.encode (DownloadPart.mk piece)).length ≤ wide.service.maxMessageSize ∧
          Client.maxMessageSize < (Message.encode (DownloadPart.mk piece)).length) ∧
      ∃ addressable message, wide.pullsHolding long addressable = some (.error (.refused ⟨.outOfRange, message⟩))) := by
  intro config tight wide short long
  have tightLongest : tight.service.longestMessage short = 259 := by
    change framed (min 256 (List.replicate 256 (0 : UInt8)).length) = 259
    rw [List.length_replicate]
    simp [framed, Wire.Varint.size]
  have wideLongest : wide.service.longestMessage long = 16777221 := by
    change framed (min 16777216 (List.replicate 16777216 (0 : UInt8)).length) = 16777221
    rw [List.length_replicate]
    simp [framed, Wire.Varint.size]
  constructor
  · have addressable : short.Addressable := zeros_addressable (by decide)
    obtain ⟨⟨piece, member, length⟩, refused⟩ := pullsHolding_refused tight short addressable (by decide)
      (by decide +kernel) (fun carried => absurd (tightLongest ▸ carried.1) (by decide))
      (tightLongest ▸ by decide)
    exact ⟨rfl, ⟨piece, member, by rw [length, tightLongest]; decide⟩, addressable, refused⟩
  · have addressable : long.Addressable := zeros_addressable (by decide)
    obtain ⟨⟨piece, member, length⟩, refused⟩ := pullsHolding_refused wide long addressable (by decide)
      (by decide +kernel) (fun carried => absurd (wideLongest ▸ carried.2) (by decide))
      (wideLongest ▸ by decide)
    exact ⟨rfl, ⟨piece, member, by rw [length, wideLongest]; decide⟩, addressable, refused⟩

end Config

end ModelVault
