import ModelVault.Proofs.Service.Handles
import ModelVault.Proofs.Service.Uploads

/-!
What can be told of a request before there is a store: whether it is wrong in itself, and whether it has come in
whole. Both are settled by what has come in, and neither by the time.
-/

namespace ModelVault

open Wire (UploadPart)

namespace Handle

/-- The handle of a position: the empty one of the start, or a numeral that 64 bits can hold. -/
def WellFormed (handle : String) : Prop :=
  handle = "" ∨ ∃ position < UInt64.size, Text.numeral? handle = some position

theorem parse_malformed {handle : String} (malformed : ¬WellFormed handle) (field : String) :
    parse .bits64 field handle = .error (parse.refusal field handle) := by
  rw [parse_eq, if_neg]
  rintro ⟨decimal, fits⟩
  by_cases empty : handle = ""
  · exact malformed (.inl empty)
  · exact malformed (.inr ⟨_, fits, by simp [Text.numeral?, decimal, empty]⟩)

end Handle

/-- A request of which no store is needed to see that it is wrong. Its messages fit the limit and can be decoded. -/
inductive Request.Invalid (limit : Nat) : Request → Prop where
  | noModel : Invalid limit (.putModel ⟨none⟩)
  | modelHandle (message : Wire.ModelsRequest) (fits : Wire.Message.size message ≤ limit)
    (malformed : ¬Handle.WellFormed message.handle) : Invalid limit (.models message)
  | versionHandle (message : Wire.VersionsRequest) (fits : Wire.Message.size message ≤ limit)
    (malformed : ¬Handle.WellFormed message.handle) : Invalid limit (.versions message)
  /-- A message offends, whatever would come after it. -/
  | offended (frames more : List UploadFrame) (ends : Bool) (parts : List UploadPart)
    (incoming : frames.map (·.receive limit) = parts.map .ok) (offended : ¬Upload.Admissible parts) :
    Invalid limit (.upload (frames ++ more) ends)
  /-- What has come in is not what the header announced. -/
  | incomplete (frames : List UploadFrame) (parts : List UploadPart)
    (incoming : frames.map (·.receive limit) = parts.map .ok)
    (incomplete : ¬∃ version data, Upload.Complete parts version data) : Invalid limit (.upload frames true)

theorem Service.plan_invalid {service : Service} {request : Request}
    (invalid : request.Invalid service.maxMessageSize) :
    ∃ message, ∀ now, service.plan now request = .refused ⟨.invalidArgument, message⟩ := by
  cases invalid with
  | noModel => exact ⟨_, fun now => rfl⟩
  | modelHandle message fits malformed =>
    refine ⟨(Handle.parse.refusal "model_handle" message.handle).message, fun now => ?_⟩
    simp only [plan, prepare, Request.checkSize, checkReceived, if_pos fits, withPosition,
      Handle.parse_malformed malformed]
    rfl
  | versionHandle message fits malformed =>
    refine ⟨(Handle.parse.refusal "version_handle" message.handle).message, fun now => ?_⟩
    simp only [plan, prepare, Request.checkSize, checkReceived, if_pos fits, withPosition,
      Handle.parse_malformed malformed]
    rfl
  | offended frames more ends parts incoming offended =>
    obtain ⟨message, refused⟩ := plan_offended incoming offended
    exact ⟨message, fun now => refused now more ends⟩
  | incomplete frames parts incoming incomplete => exact plan_incomplete incoming incomplete

/-! ### Requests that come in bit by bit -/

/-- A request once more of it has come in: the next message of an upload that is still open, or its end. -/
def Request.hear (frame? : Option UploadFrame) : Request → Request
  | .upload frames false =>
    match frame? with
    | some frame => .upload (frames ++ [frame]) false
    | none => .upload frames true
  | request => request

namespace Service

variable {service : Service} {now : Moment} {request : Request}

private theorem prepare_of_receiving {state : UploadState} (planned : service.plan now request = .receiving state) :
    service.prepare now request = .receiving state := by
  rw [plan] at planned
  cases prepared : service.prepare now request with
  | refused status => rw [prepared] at planned; cases planned
  | receiving other => rw [prepared] at planned; cases planned; rfl
  | ready work => rw [prepared] at planned; cases planned

private theorem withPosition_ne_receiving (field handle : String) (work : Nat → Work Reply) (state : UploadState) :
    withPosition field handle work ≠ .receiving state := by
  rw [withPosition]
  split <;> exact nofun

theorem upload_of_receiving {state : UploadState} (planned : service.plan now request = .receiving state) :
    ∃ frames, request = .upload frames false ∧
      Upload.receive (frames.map (·.receive service.maxMessageSize)) = .ok state := by
  have prepared := prepare_of_receiving planned
  cases request with
  | upload frames ends =>
    change received now ends (Upload.receive (frames.map (·.receive service.maxMessageSize))) = _ at prepared
    unfold received at prepared
    split at prepared
    · cases prepared
    · next taken =>
      split at prepared
      · split at prepared <;> cases prepared
      · next goesOn =>
        cases prepared
        exact ⟨frames, by rw [Bool.eq_false_iff.mpr goesOn], taken⟩
  | putModel message =>
    simp only [prepare] at prepared
    split at prepared
    · cases prepared
    · split at prepared <;> cases prepared
  | models message =>
    simp only [prepare] at prepared
    split at prepared
    · cases prepared
    · exact absurd prepared (withPosition_ne_receiving _ _ _ state)
  | versions message =>
    simp only [prepare] at prepared
    split at prepared
    · cases prepared
    · exact absurd prepared (withPosition_ne_receiving _ _ _ state)
  | deleteModel message =>
    simp only [prepare] at prepared
    split at prepared <;> cases prepared
  | download message =>
    simp only [prepare] at prepared
    split at prepared <;> cases prepared

/-- What is left to do once more of an upload has come in. -/
theorem plan_hear_receiving {state : UploadState} (planned : service.plan now request = .receiving state)
    (frame? : Option UploadFrame) : service.plan now (request.hear frame?) =
      (received now frame?.isNone (match frame? with
        | some frame => frame.receive service.maxMessageSize >>= state.step
        | none => .ok state)).map service.replying := by
  obtain ⟨frames, rfl, taken⟩ := upload_of_receiving planned
  cases frame? with
  | none => rw [Request.hear, plan_upload, taken]; rfl
  | some frame =>
    have more : Upload.receive ((frames ++ [frame]).map (·.receive service.maxMessageSize)) =
        frame.receive service.maxMessageSize >>= state.step := by
      rw [Upload.receive] at taken
      rw [Upload.receive, List.map_append, List.foldlM_append, taken]
      change (frame.receive service.maxMessageSize >>= state.step) >>= pure = _
      exact bind_pure _
    rw [Request.hear, plan_upload, more]
    rfl

/-- A request that is refused, or has come in whole, stays so. -/
theorem plan_hear_settled (settled : ∀ state, service.plan now request ≠ .receiving state)
    (frame? : Option UploadFrame) : service.plan now (request.hear frame?) = service.plan now request := by
  unfold Request.hear
  split
  · next frames =>
    cases taken : Upload.receive (frames.map (·.receive service.maxMessageSize)) with
    | ok state =>
      refine absurd ?_ (settled state)
      rw [plan_upload, taken]
      rfl
    | error status =>
      cases frame? with
      | none => simp only [plan_upload, taken, received]
      | some frame =>
        have more := Upload.receive_append taken [frame.receive service.maxMessageSize]
        simp only [plan_upload, List.map_append, List.map_cons, List.map_nil, more, taken, received]
  · rfl

open Storage (Backend)

variable {σ : Type} [Backend σ]

/-- What a service answers whose store was ready from the start, and what becomes of that store. -/
def promptly (service : Service) (now : Moment) (request : Request) (headers : List Bytes) (store : σ) :
    Option Answer × σ :=
  let (answer?, after) := (Session.new service now store true).call request headers
  (answer?, after.store)

theorem promptly_refused {status : Status} (planned : service.plan now request = .refused status)
    (headers : List Bytes) (store : σ) :
    service.promptly now request headers store = (some (.error status), store) := by
  let prompt := Session.new service now store true
  have refused : prompt.call request headers = (some (.error status), prompt) := Session.call_refused headers planned
  rw [promptly, refused]
  rfl

theorem promptly_ready {work : StoreDialogue Answer} (planned : service.plan now request = .ready work)
    (headers : List Bytes) (store : σ) : service.promptly now request headers store =
      (some (work.run Backend.perform store).1, (work.run Backend.perform store).2) := by
  let prompt := Session.new service now store true
  have called : prompt.call request headers = _ := Session.call_ready rfl headers planned
  rw [promptly, called]
  rfl

end Service

end ModelVault
