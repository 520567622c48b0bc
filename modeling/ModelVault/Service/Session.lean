import ModelVault.Service.Plan
import ModelVault.Service.Promise

/-!
A service in virtual time. Requests may come before the store is ready and may run beside each other, and the
messages of an upload come one by one; time passes only while everybody waits. The wall clock stands still at one
reading.
-/

namespace ModelVault

/-- Where a request stands that was started beside others. -/
inductive Stage where
  /-- Its stream stays open; so much of it has come in, and it may wait for the store until it is due. -/
  | receiving (due : Option Nat) (state : UploadState)
  /-- It waits for the store, or has failed to. -/
  | waiting (work : StoreDialogue Answer)
  | ended (answer : Answer)

/-- A service, the promise of its store, and the requests that were started beside others, in the order in which
they came to where they stand. -/
structure Session (σ : Type) where
  service : Service
  now : Moment
  gate : Promise Unit
  store : σ
  requests : List (String × Stage)

namespace Session

open Storage (Backend)

variable {σ : Type}

/-- A session whose store is ready at once or is still to come. -/
def new (service : Service) (now : Moment) (store : σ) (ready : Bool) : Session σ where
  service := service
  now := now
  gate := if ready then (Promise.new.set ()).2 else .new
  store := store
  requests := []

/-- When a request that comes now may no longer wait for the store. -/
def due? (headers : List Bytes) (session : Session σ) : Option Nat :=
  session.gate.deadline? (Deadline.timeout? headers session.service.waitCap)

/-- Let everybody who waits look again. -/
def settle (session : Session σ) : Session σ :=
  { session with gate := session.gate.settle }

/-- The wait of a name has ended well. -/
def isCleared (gate : Promise Unit) (name : String) : Bool :=
  match (gate.wait? name).bind (·.outcome?) with
  | some (.ok ()) => true
  | _ => false

/-- Where the started request of a name stands. -/
def stage? (name : String) (session : Session σ) : Option Stage :=
  (session.requests.find? (·.1 = name)).map (·.2)

/-- The answer of a started request that has ended. -/
def answer? (name : String) (session : Session σ) : Option Answer :=
  match session.stage? name with
  | some (.ended answer) => some answer
  | some (.waiting _) =>
    match (session.gate.wait? name).bind (·.outcome?) with
    | some (.error failure) => some (.error failure.status)
    | _ => none
  | _ => none

def drop (name : String) (session : Session σ) : Session σ :=
  { session with
    gate := session.gate.drop name
    requests := session.requests.filter (·.1 ≠ name) }

def sleep (milliseconds : Nat) (session : Session σ) : Session σ :=
  { session with gate := session.gate.settle.elapse (session.gate.clock + milliseconds) }

/-- Put a started request behind the others. -/
def enlist (name : String) (stage : Stage) (session : Session σ) : Session σ :=
  { session with requests := session.requests ++ [(name, stage)] }

variable [Backend σ]

/-- Let a started request go on if it waits and its wait has ended well. -/
def proceed (gate : Promise Unit) : String × Stage → σ → (String × Stage) × σ
  | (name, .waiting work), store =>
    if isCleared gate name then
      let (answer, store) := work.run Backend.perform store
      ((name, .ended answer), store)
    else ((name, .waiting work), store)
  | other, store => (other, store)

/-- Let started requests go on, one after the other. -/
def resume (gate : Promise Unit) : List (String × Stage) → σ → List (String × Stage) × σ
  | [], store => ([], store)
  | request :: rest, store =>
    let (request, store) := proceed gate request store
    let (rest, store) := resume gate rest store
    (request :: rest, store)

/-- Make the store ready. All who wait for it go on, in the order in which they came. -/
def setReady (session : Session σ) : Except PromiseError Unit × Session σ :=
  let (outcome, gate) := session.gate.set ()
  let (requests, store) := resume gate session.requests session.store
  (outcome, { session with gate := gate, store := store, requests := requests })

/-- Carry out the work of a started request. -/
def serve (name : String) (work : StoreDialogue Answer) (session : Session σ) : Session σ :=
  let (answer, store) := work.run Backend.perform session.store
  { session with store := store }.enlist name (.ended answer)

/-- Go on with a started request that has so much left to do. -/
def enter (name : String) (due : Option Nat) (plan : Plan (StoreDialogue Answer)) (session : Session σ) : Session σ :=
  match plan with
  | .refused status => session.enlist name (.ended (.error status))
  | .receiving state => session.enlist name (.receiving due state)
  | .ready work =>
    let session := { session with gate := session.gate.start name due }
    if isCleared session.gate name then session.serve name work else session.enlist name (.waiting work)

/-- Start a request beside the others and let it go as far as it gets. -/
def start (name : String) (request : Request) (headers : List Bytes) (session : Session σ) : Session σ :=
  (session.drop name).settle.enter name (session.due? headers) (session.service.plan session.now request)

/-- Take in more of a started upload: its next message, or its end. -/
def receive (name : String) (frame? : Option UploadFrame) (session : Session σ) : Session σ :=
  match session.stage? name with
  | some (.receiving due state) =>
    let upload := match frame? with
      | some frame => frame.receive session.service.maxMessageSize >>= state.step
      | none => .ok state
    let plan := Service.received session.now frame?.isNone upload
    (session.drop name).settle.enter name due (plan.map session.service.replying)
  | _ => session.settle

/-- Answer a request while nobody else acts; without an answer when nothing ends it. -/
def call (request : Request) (headers : List Bytes) (session : Session σ) : Option Answer × Session σ :=
  match session.service.plan session.now request with
  | .refused status => (some (.error status), session)
  | .receiving _ => (none, session)
  | .ready work =>
    let (outcome, gate) := session.gate.await (session.due? headers)
    let session := { session with gate := gate }
    match outcome with
    | some (.ok ()) =>
      let (answer, store) := work.run Backend.perform session.store
      (some answer, { session with store := store })
    | some (.error failure) => (some (.error failure.status), session)
    | none => (none, session)

/-- Let time pass until a started request ends; without an answer when nothing ends it. -/
def join (name : String) (session : Session σ) : Option Answer × Session σ :=
  let session := { session with gate := (session.gate.join name).2 }
  (session.answer? name, session)

/-- Give up a started request, or get its answer if it has ended. -/
def abort (name : String) (session : Session σ) : Option Answer × Session σ :=
  (session.answer? name, session.drop name)

end Session

end ModelVault
