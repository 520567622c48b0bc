import ModelVault.Service.Session

/-!
The work of a request: what its calls of the store come to, and how a session carries it out.
-/

namespace ModelVault

theorem Reply.send_fitting {limit octets : Nat} (reply : Reply) (fits : octets ≤ limit)
    (framed : octets ≤ maxFramedSize) : (checkSent limit octets).map (fun () => reply) = .ok reply := by
  rw [checkSent_fitting fits framed]
  rfl

namespace Service

/-- Calling the store ends the work with a status where the store refuses the call. -/
theorem run_ask_bind {α : Type} (action : String) (call : Storage.Call) (next : call.Value → Work α) :
    (ask action call >>= next).run = .ask call fun reply =>
      match reply with
      | .ok value => (next value).run
      | .error refusal => .done (.error (refusal.status action)) := by
  change Dialogue.ask call (fun reply =>
    Dialogue.bind (.done (reply.mapError (·.status action))) (ExceptT.bindCont next)) = _
  congr 1
  funext reply
  cases reply with
  | ok value => rfl
  | error refusal => rfl

theorem replying_ask_bind (service : Service) (action : String) (call : Storage.Call)
    (next : call.Value → Work Reply) :
    service.replying (ask action call >>= next) = .ask call fun reply =>
      match reply with
      | .ok value => service.replying (next value)
      | .error refusal => .done (.error (refusal.status action)) := by
  rw [replying, run_ask_bind, Dialogue.bind]
  congr 1
  funext reply
  cases reply with
  | ok value => rfl
  | error refusal => rfl

theorem replying_pure (service : Service) (reply : Reply) :
    service.replying (pure reply) = .done (reply.send service.maxMessageSize) :=
  rfl

theorem run_bind {α β σ : Type} (answer : (call : Storage.Call) → σ → call.Reply × σ) (first : Work α)
    (next : α → Work β) (state : σ) :
    (first >>= next).run.run answer state =
      match first.run.run answer state with
      | (.ok value, state) => (next value).run.run answer state
      | (.error status, state) => (.error status, state) := by
  change (Dialogue.bind first.run (ExceptT.bindCont next)).run answer state = _
  rw [Dialogue.run_bind]
  rcases first.run.run answer state with ⟨value | status, state⟩
  · rfl
  · rfl

theorem run_bind_of_ok {α β σ : Type} {answer : (call : Storage.Call) → σ → call.Reply × σ} {first : Work α}
    {state between : σ} {value : α} (began : first.run.run answer state = (.ok value, between)) (next : α → Work β) :
    (first >>= next).run.run answer state = (next value).run.run answer between := by
  rw [run_bind, began]

theorem run_bind_ok {α β σ : Type} {answer : (call : Storage.Call) → σ → call.Reply × σ} {first : Work α}
    {next : α → Work β} {state after : σ} {result : β}
    (done : (first >>= next).run.run answer state = (.ok result, after)) :
    ∃ value between, first.run.run answer state = (.ok value, between) ∧
      (next value).run.run answer between = (.ok result, after) := by
  rw [run_bind] at done
  rcases began : first.run.run answer state with ⟨status | value, between⟩
  · simp [began] at done
  · rw [began] at done
    exact ⟨value, between, rfl, done⟩

theorem run_ask {σ : Type} {answer : (call : Storage.Call) → σ → call.Reply × σ} {call : Storage.Call}
    {state after : σ} {value : call.Value} (replied : answer call state = (.ok value, after)) (action : String) :
    (ask action call).run.run answer state = (.ok value, after) := by
  change ((Dialogue.ask call fun reply => .done (reply.mapError (·.status action))).run answer state) = _
  rw [Dialogue.run_ask, replied]
  rfl

theorem answered_of_ask {σ : Type} {answer : (call : Storage.Call) → σ → call.Reply × σ} {action : String}
    {call : Storage.Call} {state after : σ} {value : call.Value}
    (done : (ask action call).run.run answer state = (.ok value, after)) : answer call state = (.ok value, after) := by
  change ((Dialogue.ask call fun reply => .done (reply.mapError (·.status action))).run answer state) = _ at done
  rw [Dialogue.run_ask] at done
  rcases replied : answer call state with ⟨refusal | other, later⟩
  · rw [replied] at done
    cases done
  · rw [replied] at done
    cases done
    rfl

theorem run_lift {σ : Type} {answer : (call : Storage.Call) → σ → call.Reply × σ} {call : Storage.Call}
    {state after : σ} {reply : call.Reply} (replied : answer call state = (reply, after)) :
    (ExceptT.lift (Dialogue.question call) : Work call.Reply).run.run answer state = (.ok reply, after) := by
  change (Dialogue.ask call fun reply => .done (Except.ok reply)).run answer state = _
  rw [Dialogue.run_ask, replied]
  rfl

theorem answered_of_lift {σ : Type} {answer : (call : Storage.Call) → σ → call.Reply × σ} {call : Storage.Call}
    {state after : σ} {reply : call.Reply}
    (done : (ExceptT.lift (Dialogue.question call) : Work call.Reply).run.run answer state = (.ok reply, after)) :
    answer call state = (reply, after) := by
  change (Dialogue.ask call fun reply => .done (Except.ok reply)).run answer state = _ at done
  rw [Dialogue.run_ask] at done
  cases done
  rfl

theorem run_replying {σ : Type} (service : Service) (answer : (call : Storage.Call) → σ → call.Reply × σ)
    (work : Work Reply) (state : σ) :
    (service.replying work).run answer state =
      ((work.run.run answer state).1 >>= (·.send service.maxMessageSize), (work.run.run answer state).2) := by
  rw [replying, Dialogue.run_bind]
  rfl

theorem prepare_oversized {service : Service} {request : Request} {status : Status}
    (oversized : request.checkSize service.maxMessageSize = .error status) (now : Moment) :
    service.prepare now request = .refused status := by
  simp only [prepare, oversized]

theorem plan_upload (service : Service) (now : Moment) (frames : List UploadFrame) (ends : Bool) :
    service.plan now (.upload frames ends) =
      (received now ends (Upload.receive (frames.map (·.receive service.maxMessageSize)))).map service.replying :=
  rfl

theorem exists_prepare {service : Service} {now : Moment} {request : Request} {work : StoreDialogue Answer}
    (planned : service.plan now request = .ready work) :
    ∃ inner, service.prepare now request = .ready inner ∧ work = service.replying inner := by
  rw [plan] at planned
  cases prepared : service.prepare now request with
  | refused status => rw [prepared] at planned; cases planned
  | receiving state => rw [prepared] at planned; cases planned
  | ready inner =>
    rw [prepared] at planned
    cases planned
    exact ⟨inner, rfl, rfl⟩

theorem plan_of_prepare {service : Service} {now : Moment} {request : Request} {work : Work Reply}
    (prepared : service.prepare now request = .ready work) :
    service.plan now request = .ready (service.replying work) := by
  rw [plan, prepared]
  rfl

end Service

theorem Promise.value?_of_await {α : Type} {promise : Promise α} {deadline : Option Nat} {value : α}
    (awaited : (promise.await deadline).1 = some (.ok value)) : promise.value? = some value := by
  unfold Promise.await at awaited
  split at awaited
  · next found =>
    cases awaited
    exact found
  · cases awaited
  · cases awaited

namespace Session

open Storage (Backend)

variable {σ : Type} [Backend σ] {session : Session σ} {request : Request}

theorem call_ready (ready : session.gate.value? = some ()) {work : StoreDialogue Answer} (headers : List Bytes)
    (planned : session.service.plan session.now request = .ready work) :
    session.call request headers = (some (work.run Backend.perform session.store).1,
      { session with store := (work.run Backend.perform session.store).2 }) := by
  simp only [Session.call, planned, Promise.await, ready]

theorem call_ask (ready : session.gate.value? = some ()) {call : Storage.Call} {answer : call.Reply → Answer}
    (headers : List Bytes) (planned : session.service.plan session.now request =
      .ready (.ask call fun reply => .done (answer reply)))
    {reply : call.Reply} {after : σ} (replied : Backend.perform call session.store = (reply, after)) :
    session.call request headers = (some (answer reply), { session with store := after }) := by
  rw [call_ready ready headers planned, Dialogue.run_ask, replied]
  rfl

/-- A session whose store is ready carries out work that ends well, and sends the reply. -/
theorem call_work (ready : session.gate.value? = some ()) {work : Service.Work Reply} (headers : List Bytes)
    (planned : session.service.plan session.now request = .ready (session.service.replying work)) {reply : Reply}
    {after : σ} (done : work.run.run Backend.perform session.store = (.ok reply, after)) :
    session.call request headers =
      (some (reply.send session.service.maxMessageSize), { session with store := after }) := by
  rw [call_ready ready headers planned, Service.run_replying, done]
  rfl

theorem call_refused {status : Status} (headers : List Bytes)
    (planned : session.service.plan session.now request = .refused status) :
    session.call request headers = (some (.error status), session) := by
  simp only [Session.call, planned]

end Session

end ModelVault
