import ModelVault.Proofs.Service.Work
import ModelVault.Proofs.Storage.Deletions

/-!
A service whose store others use as well. What they do falls between two calls of the store, be these calls
of one request or of several, so it is enough to know what they do before each call.
-/

namespace ModelVault

open Storage (Backend Call Event Store)

/-- A call, and the store as the call met it. -/
structure Exchange where
  call : Call
  store : Store
  deriving DecidableEq

/-- A store that a party shares with others. -/
structure SharedStore where
  store : Store
  /-- What the others do before each of the next calls; after the last of these turns they do nothing. -/
  turns : List (List Event)
  /-- The calls of the party so far, the latest one first. -/
  calls : List Exchange

/-- The identifiers that the call listed, if it was answered with a list of models. -/
def Exchange.listed? (exchange : Exchange) : Option (List String) :=
  match exchange.call with
  | .listModels offset limit => (exchange.store.perform (.listModels offset limit)).1.toOption
  | _ => none

namespace SharedStore

/-- What the calls of the party have listed, in their order. -/
def listings (shared : SharedStore) : List (List String) :=
  (shared.calls.filterMap (·.listed?)).reverse

def new (store : Store) (turns : List (List Event)) : SharedStore := ⟨store, turns, []⟩

/-- The store when the others have had their next turn. -/
def met (shared : SharedStore) : Store :=
  shared.store.after (shared.turns.headD [])

/-- Answer a call of the party after a turn of the others. -/
def answer (call : Call) (shared : SharedStore) : call.Reply × SharedStore :=
  let (reply, store) := shared.met.perform call
  (reply, ⟨store, shared.turns.tail, ⟨call, shared.met⟩ :: shared.calls⟩)

theorem perform_of_answer {shared after : SharedStore} {call : Call} {reply : call.Reply}
    (replied : shared.answer call = (reply, after)) :
    ∃ store, shared.met.perform call = (reply, store) ∧
      after = ⟨store, shared.turns.tail, ⟨call, shared.met⟩ :: shared.calls⟩ := by
  rw [answer] at replied
  rcases performed : shared.met.perform call with ⟨same, store⟩
  rw [performed] at replied
  cases replied
  exact ⟨store, rfl, rfl⟩

theorem answer_of_perform {shared : SharedStore} {call : Call} {reply : call.Reply} {store : Store}
    (performed : shared.met.perform call = (reply, store)) :
    shared.answer call = (reply, ⟨store, shared.turns.tail, ⟨call, shared.met⟩ :: shared.calls⟩) := by
  rw [answer, performed]

theorem sound_met {shared : SharedStore} (sound : shared.store.Sound) : shared.met.Sound :=
  Store.sound_after sound _

/-- All that the others do is to delete models. -/
structure Quiet (shared : SharedStore) : Prop where
  sound : shared.store.Sound
  deletes : ∀ turn ∈ shared.turns, ∀ event ∈ turn, event.Deletes

namespace Quiet

variable {shared : SharedStore} (quiet : shared.Quiet)

include quiet

theorem met : shared.met.PartOf shared.store := by
  apply Store.partOf_after quiet.sound
  cases turns : shared.turns with
  | nil => exact nofun
  | cons turn rest => exact quiet.deletes turn (by simp [turns])

theorem next (calls : List Exchange) : Quiet ⟨shared.met, shared.turns.tail, calls⟩ where
  sound := sound_met quiet.sound
  deletes turn member := quiet.deletes turn (List.mem_of_mem_tail member)

end Quiet

/-- While the others do nothing, a party has the store for itself. -/
theorem run_alone {α : Type} (work : StoreDialogue α) (store : Store) (calls : List Exchange) :
    work.run Backend.perform store = ((work.run answer ⟨store, [], calls⟩).1,
      (work.run answer ⟨store, [], calls⟩).2.store) := by
  induction work generalizing store calls with
  | done result => rfl
  | ask call next ih =>
    rw [Dialogue.run_ask, Dialogue.run_ask]
    exact ih _ _ _

end SharedStore

/-- Answer a request with a store that is ready and that others share. -/
def Service.serve (service : Service) (now : Moment) (request : Request) (shared : SharedStore) :
    Option Answer × SharedStore :=
  match service.plan now request with
  | .refused status => (some (.error status), shared)
  | .receiving _ => (none, shared)
  | .ready work =>
    let (answer, shared) := work.run SharedStore.answer shared
    (some answer, shared)

/-- A session whose store is ready serves requests in the same way while others do nothing. -/
theorem Session.call_eq_serve {session : Session Store} (ready : session.gate.value? = some ()) (request : Request)
    (headers : List Bytes) (calls : List Exchange) :
    (session.call request headers).1 = (session.service.serve session.now request ⟨session.store, [], calls⟩).1 ∧
      (session.call request headers).2.store =
        (session.service.serve session.now request ⟨session.store, [], calls⟩).2.store := by
  rw [Service.serve]
  cases planned : session.service.plan session.now request with
  | refused status =>
    rw [Session.call_refused headers planned]
    exact ⟨rfl, rfl⟩
  | receiving state =>
    simp only [Session.call, planned, and_self]
  | ready work =>
    rw [Session.call_ready ready headers planned, SharedStore.run_alone work session.store calls]
    exact ⟨rfl, rfl⟩

end ModelVault
