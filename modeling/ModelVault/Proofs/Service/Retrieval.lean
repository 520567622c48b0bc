import ModelVault.Proofs.Service.Paging
import ModelVault.Proofs.Service.Pieces
import ModelVault.Proofs.Storage.Origins

/-!
Requests for one version: what is said of it, and its data. Each is one call of the store.
-/

namespace ModelVault

open Storage (Call Store)
open Wire (Message)

namespace Service

variable {service : Service} {now : Moment} {shared after : SharedStore} {modelId : String} {number : UInt32}

def told (service : Service) (modelId : String) (number : UInt32) : Except StoreError VersionInfo → Answer
  | .ok info => (Reply.versions ⟨[info.entry], Handle.format 1⟩).send service.maxMessageSize
  | .error refusal => .error (refusal.status (retrieval modelId number))

def given (service : Service) (modelId : String) (number : UInt32) : Except StoreError Bytes → Answer
  | .ok data => (Reply.data (chunkPayload data service.chunkSize) none).send service.maxMessageSize
  | .error refusal => .error (refusal.status (retrieval modelId number))

theorem told_eq_ok {reply : Except StoreError VersionInfo} {sent : Reply}
    (done : service.told modelId number reply = .ok sent) :
    ∃ info, reply = .ok info ∧ sent = .versions ⟨[info.entry], Handle.format 1⟩ := by
  cases reply with
  | error refusal => cases done
  | ok info => exact ⟨info, rfl, Reply.send_eq_ok done (by simp)⟩

theorem given_eq_ok {reply : Except StoreError Bytes} {pieces : List Bytes}
    (done : service.given modelId number reply = .ok (.data pieces none)) : reply = .ok pieces.flatten := by
  cases reply with
  | error refusal => cases done
  | ok data =>
    rw [given, Reply.send] at done
    rcases sent : sendPieces service.maxMessageSize (chunkPayload data service.chunkSize) with
      ⟨whole, none | status⟩
    · rw [sent] at done
      cases done
      rw [sendPieces_whole sent, flatten_chunkPayload]
    · rw [sent] at done
      cases done

theorem serve_version
    (fits : (Request.versions ⟨modelId, [number], 1, ""⟩).checkSize service.maxMessageSize = .ok ()) :
    service.serve now (.versions ⟨modelId, [number], 1, ""⟩) shared =
      (some (service.told modelId number (shared.answer (.versionInfo modelId number)).1),
        (shared.answer (.versionInfo modelId number)).2) := by
  have planned : service.plan now (.versions ⟨modelId, [number], 1, ""⟩) = .ready
      (.ask (.versionInfo modelId number) fun reply => .done (service.told modelId number reply)) := by
    have single : service.prepare now (.versions ⟨modelId, [number], 1, ""⟩) =
        .ready (someVersions modelId [number] 0 1) := by
      rw [prepare, fits]
      rfl
    rw [plan_of_prepare single]
    apply congrArg Plan.ready
    apply congrArg (Dialogue.ask (Call.versionInfo modelId number))
    funext reply
    cases reply with
    | ok info => rfl
    | error refusal => rfl
  rw [serve, planned]
  rfl

theorem serve_download (fits : (Request.download ⟨modelId, number⟩).checkSize service.maxMessageSize = .ok ()) :
    service.serve now (.download ⟨modelId, number⟩) shared =
      (some (service.given modelId number (shared.answer (.versionData modelId number)).1),
        (shared.answer (.versionData modelId number)).2) := by
  have planned : service.plan now (.download ⟨modelId, number⟩) = .ready
      (.ask (.versionData modelId number) fun reply => .done (service.given modelId number reply)) := by
    have work : service.prepare now (.download ⟨modelId, number⟩) =
        .ready (download service.chunkSize modelId number) := by
      rw [prepare, fits]
    rw [plan_of_prepare work]
    apply congrArg Plan.ready
    apply congrArg (Dialogue.ask (Call.versionData modelId number))
    funext reply
    cases reply with
    | ok data => rfl
    | error refusal => rfl
  rw [serve, planned]
  rfl

end Service

end ModelVault
