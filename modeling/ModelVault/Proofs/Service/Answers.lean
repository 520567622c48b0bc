import ModelVault.Proofs.Service.Paging

/-!
Requests that change nothing, on a store that nobody else uses: what the work for one comes to, and what the
request is answered with, whichever service takes it.
-/

namespace ModelVault

open Storage (Store)

namespace Service

variable {α β : Type} {store : Store}

/-- With the store for itself, the work comes to a value and leaves the store as it is. -/
def Yields (store : Store) (work : Work α) (value : α) : Prop :=
  ∀ calls, ∃ later, work.run.run SharedStore.answer ⟨store, [], calls⟩ = (.ok value, ⟨store, [], later⟩)

theorem yields_pure (value : α) : Yields store (pure value) value :=
  fun calls => ⟨calls, rfl⟩

theorem Yields.bind {first : Work α} {next : α → Work β} {value : α} {result : β} (began : Yields store first value)
    (ended : Yields store (next value) result) : Yields store (first >>= next) result := by
  intro calls
  obtain ⟨between, ran⟩ := began calls
  obtain ⟨later, done⟩ := ended between
  exact ⟨later, (run_bind_of_ok ran next).trans done⟩

theorem yields_ask {call : Storage.Call} {value : call.Value} (replied : store.perform call = (.ok value, store))
    (action : String) : Yields store (ask action call) value :=
  fun _ => ⟨_, run_ask (SharedStore.answer_of_perform replied) action⟩

theorem yields_lift {call : Storage.Call} {reply : call.Reply} (replied : store.perform call = (reply, store)) :
    Yields store (ExceptT.lift (Dialogue.question call) : Work call.Reply) reply :=
  fun _ => ⟨_, run_lift (SharedStore.answer_of_perform replied)⟩

end Service

namespace Storage.Store

/-- What a request comes to on a store that nobody else uses, whichever service takes it. -/
structure Answers (store : Store) (request : Request) (reply : Reply) : Prop where
  /-- Unless the request exceeds the service's limit, the work for it comes to this reply, -/
  worked : ∀ (service : Service) (now : Moment), request.checkSize service.maxMessageSize = .ok () →
    ∃ work, service.prepare now request = .ready work ∧ Service.Yields store work reply
  /-- which is sent if it can be, and the store stays as it is. -/
  sent : ∀ (service : Service) (now : Moment) calls, ∃ later, service.serve now request ⟨store, [], calls⟩ =
    (some (request.checkSize service.maxMessageSize >>= fun _ => reply.send service.maxMessageSize),
      ⟨store, [], later⟩)

variable {store : Store} {request : Request} {reply other : Reply}

theorem answers_of_yields {work : Service.Work Reply}
    (prepared : ∀ (service : Service) (now : Moment), request.checkSize service.maxMessageSize = .ok () →
      service.prepare now request = .ready work)
    (yields : Service.Yields store work reply) : store.Answers request reply where
  worked service now fits := ⟨work, prepared service now fits, yields⟩
  sent service now calls := by
    cases fits : request.checkSize service.maxMessageSize with
    | error status => exact ⟨calls, by simp only [Service.serve, Service.plan, Service.prepare_oversized fits]; rfl⟩
    | ok fit =>
      obtain ⟨later, ran⟩ := yields calls
      refine ⟨later, ?_⟩
      simp only [Service.serve, Service.plan_of_prepare (prepared service now fits), Service.run_replying, ran]
      rfl

private theorem exists_checkSize (request : Request) : ∃ limit, request.checkSize limit = .ok () := by
  have fitting : ∀ octets, ∃ limit, checkReceived limit octets = .ok () :=
    fun octets => ⟨octets, if_pos (Nat.le_refl octets)⟩
  cases request with
  | upload frames ends => exact ⟨0, rfl⟩
  | _ => exact fitting _

theorem Answers.unique (answers : store.Answers request reply) (also : store.Answers request other) :
    reply = other := by
  obtain ⟨limit, fits⟩ := exists_checkSize request
  obtain ⟨work, prepared, yields⟩ := answers.worked ⟨1, none, limit⟩ ⟨0, 0⟩ fits
  obtain ⟨same, alsoPrepared, alsoYields⟩ := also.worked ⟨1, none, limit⟩ ⟨0, 0⟩ fits
  cases prepared.symm.trans alsoPrepared
  obtain ⟨_, ran⟩ := yields []
  obtain ⟨_, alsoRan⟩ := alsoYields []
  exact Except.ok.inj (congrArg Prod.fst (ran.symm.trans alsoRan))

end Storage.Store

end ModelVault
