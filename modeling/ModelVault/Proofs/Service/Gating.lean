import ModelVault.Proofs.Service.Bystanders
import ModelVault.Proofs.Service.Hearing
import ModelVault.Storage.Store

/-!
Requests that come before the store is ready. The wait makes a difference in time only: a request is answered
as a service would answer it whose store has always been ready, or it fails at its deadline and leaves no trace.
-/

namespace ModelVault

namespace Session

open Storage (Backend)

variable {σ : Type} {service : Service} {now : Moment} {name : String} {request : Request} {headers : List Bytes}
  {session alone joined : Session σ} {work : StoreDialogue Answer} {due? : Option Nat} {later : List (Occurrence σ)}

/-- What has come in of the request of a name when this has happened, too. -/
def Occurrence.heard (name : String) (request : Request) : Occurrence σ → Request
  | .receive other frame? => if other = name then request.hear frame? else request
  | _ => request

/-- What has come in of the request of a name once all this has happened. -/
def heard (name : String) (request : Request) (occurrences : List (Occurrence σ)) : Request :=
  occurrences.foldl (fun request occurrence => occurrence.heard name request) request

theorem Occurrence.heard_of_others {occurrence : Occurrence σ} (others : occurrence.feeds name = false)
    (request : Request) : occurrence.heard name request = request := by
  cases occurrence with
  | receive other frame? => exact if_neg (by simpa [feeds] using others)
  | _ => rfl

theorem Occurrence.eq_receive_of_feeds {occurrence : Occurrence σ} (feeds : occurrence.feeds name = true) :
    ∃ frame?, occurrence = .receive name frame? := by
  cases occurrence with
  | receive other frame? => exact ⟨frame?, congrArg (Occurrence.receive · frame?) (of_decide_eq_true feeds)⟩
  | _ => cases feeds

theorem plan_heard_settled (settled : ∀ state, service.plan now request ≠ .receiving state)
    (later : List (Occurrence σ)) : service.plan now (heard name request later) = service.plan now request := by
  induction later generalizing request with
  | nil => rfl
  | cons occurrence rest ih =>
    have same : service.plan now (occurrence.heard name request) = service.plan now request := by
      cases occurrence with
      | receive other frame? =>
        simp only [Occurrence.heard]
        split
        · exact Service.plan_hear_settled settled frame?
        · rfl
      | _ => rfl
    exact (ih (same ▸ settled)).trans same

def without (name : String) (session : Session σ) : Session σ :=
  (session.drop name).settle

/-- The request has come in whole, or has been refused, with the last of what has happened, and not before. -/
structure Completes (service : Service) (now : Moment) (name : String) (request : Request)
    (occurrences : List (Occurrence σ)) : Prop where
  settled : ∀ state, service.plan now (heard name request occurrences) ≠ .receiving state
  first : ∀ before occurrence rest, occurrences = before ++ occurrence :: rest →
    ∃ state, service.plan now (heard name request before) = .receiving state

/-! ### The stages of a request -/

/-- An upload is still open. -/
structure Receiving (service : Service) (now : Moment) (name : String) (request : Request) (due? : Option Nat)
    (session : Session σ) : Prop where
  settings : session.service = service
  time : session.now = now
  has : ∃ state, service.plan now request = .receiving state ∧ session.Has name (.receiving due? state)
  wait : session.gate.wait? name = none

namespace Receiving

variable (receiving : joined.Receiving service now name request due?)
include receiving

theorem answer?_eq_none : joined.answer? name = none := by
  obtain ⟨state, _, has⟩ := receiving.has
  rw [answer?, has.stage?]

theorem held : Held (joined.gate.set ()).2 name joined.requests := by
  obtain ⟨state, _, has⟩ := receiving.has
  intro work member
  have listed : (name, Stage.waiting work) ∈ joined.requests.filter (·.1 = name) :=
    List.mem_filter.mpr ⟨member, by simp⟩
  rw [has, List.mem_singleton] at listed
  cases listed

theorem rests {after : Session σ} (rests : Rests name joined after) :
    after.Receiving service now name request due? := by
  obtain ⟨state, planned, has⟩ := receiving.has
  exact ⟨rests.service.trans receiving.settings, rests.now.trans receiving.time,
    ⟨state, planned, rests.requests.trans has⟩, rests.gate.absent receiving.wait⟩

end Receiving

/-- A request waits for the store and is in time. -/
structure Waiting (name : String) (work : StoreDialogue Answer) (due? : Option Nat) (session : Session σ) :
    Prop where
  unset : session.gate.value? = none
  has : session.Has name (.waiting work)
  wait : ∃ wait, session.gate.wait? name = some wait ∧ wait.outcome? = none ∧ wait.deadline = due?
  inTime : ∀ due, due? = some due → session.gate.clock ≤ due

namespace Waiting

variable (waiting : session.Waiting name work due?)
include waiting

theorem answer?_eq_none : session.answer? name = none := by
  obtain ⟨wait, found, pending, _⟩ := waiting.wait
  rw [answer?, waiting.has.stage?]
  simp only [found, Option.bind_some, pending]

theorem deaf : session.Deaf name := by
  intro due state receiving
  rw [waiting.has.stage?] at receiving
  cases receiving

theorem cleared : isCleared (session.gate.set ()).2 name = true := by
  obtain ⟨wait, found, pending, _⟩ := waiting.wait
  simp only [isCleared, Promise.wait?_set waiting.unset, found, Option.map_some, Option.bind_some,
    Wait.outcome?_poll_some () _ pending]

/-- It goes on to wait, or fails since its deadline has passed. -/
theorem next {after : Session σ} (passes : Passes name session after) : after.Waiting name work due? ∨
    after.Settled name (.error PromiseError.deadlineExceeded.status) ∧
      ∃ due, due? = some due ∧ due ≤ after.gate.clock := by
  obtain ⟨wait, found, pending, rfl⟩ := waiting.wait
  obtain ⟨later, found, same, ⟨still, inTime⟩ | ⟨ended, due⟩⟩ :=
    passes.gate_passes.pending wait waiting.unset found pending waiting.inTime
  · exact .inl {
      unset := passes.gate_passes.value.trans waiting.unset
      has := passes.requests.trans waiting.has
      wait := ⟨later, found, still, same⟩
      inTime := inTime }
  · exact .inr ⟨.failed work (passes.requests.trans waiting.has) later found _ ended rfl, due⟩

end Waiting

/-- Nobody has the name. -/
structure Vacant (name : String) (session : Session σ) : Prop where
  wait : session.gate.wait? name = none
  requests : session.requests.filter (·.1 = name) = []

theorem vacant_drop (session : Session σ) (name : String) : (session.drop name).Vacant name where
  wait := Promise.wait?_drop_self session.gate name
  requests := by simp [drop, List.filter_filter]

namespace Vacant

variable (vacant : alone.Vacant name)
include vacant

theorem settle : alone.settle.Vacant name where
  wait := (Promise.Passes.settle alone.gate).absent vacant.wait
  requests := vacant.requests

theorem has_enlist (stage : Stage) : (alone.enlist name stage).Has name stage := by
  rw [Has, enlist, List.filter_append, vacant.requests]
  simp

theorem drop_enlist (stage : Stage) : (alone.enlist name stage).drop name = alone := by
  have others : alone.requests.filter (·.1 ≠ name) = alone.requests := by
    refine List.filter_eq_self.mpr fun entry member => ?_
    simpa using List.filter_eq_nil_iff.mp vacant.requests entry member
  simp only [drop, enlist, List.filter_append, others, Promise.drop_fresh vacant.wait]
  simp

theorem drop_begun (store : σ) (due? : Option Nat) (stage : Stage) :
    (({ alone with gate := alone.gate.start name due?, store := store } : Session σ).enlist name stage).drop name =
      { alone with store := store } := by
  have dropped := congrArg (fun session : Session σ => { session with store := store }) (vacant.drop_enlist stage)
  simp only [drop, enlist, Promise.drop_start_self due? vacant.wait, Promise.drop_fresh vacant.wait] at dropped ⊢
  exact dropped

end Vacant

variable [Backend σ]

/-- Make the store ready, while somebody else changes it after some of those who wait have gone on and before the
others do. -/
def setReadyAround (ahead behind : List (String × Stage)) (change : σ → σ) (session : Session σ) : Session σ :=
  let gate := (session.gate.set ()).2
  let (first, store) := resume gate ahead session.store
  let (second, store) := resume gate behind (change store)
  { session with gate := gate, store := store, requests := first ++ second }

/-- When nobody changes the store, it just becomes ready. -/
theorem setReadyAround_id {ahead behind : List (String × Stage)} (order : session.requests = ahead ++ behind) :
    session.setReadyAround ahead behind id = session.setReady.2 := by
  rw [setReady_eq, order, resume_append]
  rfl

/-! ### Where a request stands -/

/-- Where a request stands that had to wait for the store. The same things happen in a session with the request,
which has joined it, and in one that is alone. `prompt` is what a service whose store is ready would have answered. -/
inductive Waits (name : String) (prompt : σ → Option Answer × σ) (due? : Option Nat) (alone joined : Session σ)
    (later : List (Occurrence σ)) : Prop where
  /-- The store has not become ready, and the deadline has not passed. -/
  | pending (unready : .ready ∉ later) (inTime : ∀ due, due? = some due → (alone.run later).gate.clock ≤ due)
    (unanswered : (joined.run later).answer? name = none)
    (effect : (joined.run later).drop name = alone.run later)
  /-- The deadline passed before the store was ready. -/
  | expired (before rest : List (Occurrence σ)) (divided : later = before ++ rest) (unready : .ready ∉ before)
    (passed : ∃ due, due? = some due ∧ due ≤ (alone.run before).gate.clock)
    (answered : (joined.run later).answer? name = some (.error PromiseError.deadlineExceeded.status))
    (effect : (joined.run later).drop name = alone.run later)
  /-- The store became ready in time, and the request was served in its turn: the others of its time are ahead of it
  or behind it. -/
  | served (before rest : List (Occurrence σ)) (divided : later = before ++ .ready :: rest)
    (unready : .ready ∉ before) (inTime : ∀ due, due? = some due → (alone.run before).gate.clock ≤ due)
    (ahead behind : List (String × Stage)) (order : (alone.run before).requests = ahead ++ behind) (met : σ)
    (reached : met = (resume ((alone.run before).gate.set ()).2 ahead (alone.run before).store).2)
    (answered : (joined.run later).answer? name = (prompt met).1)
    (effect : (joined.run later).drop name =
      ((alone.run before).setReadyAround ahead behind fun store => (prompt store).2).run rest)

/-- Where a request stands that has come in whole. -/
inductive Meets (name : String) (prompt : σ → Option Answer × σ) (due? : Option Nat) (alone joined : Session σ)
    (later : List (Occurrence σ)) : Prop where
  /-- The answer is the same with every store, and changes none. -/
  | regardless (answer? : Option Answer) (alike : ∀ store, prompt store = (answer?, store))
    (answered : (joined.run later).answer? name = answer?)
    (effect : (joined.run later).drop name = alone.run later)
  | atOnce (ready : alone.gate.value? = some ())
    (answered : (joined.run later).answer? name = (prompt alone.store).1)
    (effect : (joined.run later).drop name = ({ alone with store := (prompt alone.store).2 } : Session σ).run later)
  | waits (unready : alone.gate.value? = none) (waits : Waits name prompt due? alone joined later)

/-- Where a request stands that was started, once other things have happened, among them that more of it came in. -/
inductive Stands (service : Service) (now : Moment) (name : String) (request : Request) (headers : List Bytes)
    (due? : Option Nat) (alone joined : Session σ) (later : List (Occurrence σ)) : Prop where
  /-- It is an upload that is still open. -/
  | receiving (state : UploadState) (planned : service.plan now (heard name request later) = .receiving state)
    (unanswered : (joined.run later).answer? name = none)
    (effect : (joined.run later).drop name = alone.run later)
  /-- Nothing that comes in after it is whole makes a difference. -/
  | came (before rest : List (Occurrence σ)) (divided : later = before ++ rest)
    (complete : Completes service now name request before)
    (same : service.plan now (heard name request later) = service.plan now (heard name request before))
    (meets : Meets name (service.promptly now (heard name request before) headers) due? (alone.run before)
      (joined.run before) rest)

/-! ### While it waits -/

private theorem filter_others {requests : List (String × Stage)} (others : ∀ entry ∈ requests, entry.1 ≠ name) :
    requests.filter (·.1 ≠ name) = requests ∧ requests.filter (·.1 = name) = [] :=
  ⟨List.filter_eq_self.mpr fun entry present => by simpa using others entry present,
    List.filter_eq_nil_iff.mpr fun entry present => by simpa using others entry present⟩

private theorem resume_others {requests : List (String × Stage)} (others : ∀ entry ∈ requests, entry.1 ≠ name)
    (gate : Promise Unit) (store : σ) : resume (gate.drop name) requests store = resume gate requests store ∧
      ∀ entry ∈ (resume gate requests store).1, entry.1 ≠ name := by
  induction requests generalizing store with
  | nil => exact ⟨rfl, fun _ member => absurd member List.not_mem_nil⟩
  | cons entry rest ih =>
    obtain ⟨different, rest⟩ := List.forall_mem_cons.mp others
    obtain ⟨same, named⟩ := ih rest (proceed gate entry store).2
    rw [resume_cons, resume_cons, proceed_drop different, same]
    exact ⟨rfl, List.forall_mem_cons.mpr ⟨proceed_name gate entry store ▸ different, named⟩⟩

private theorem filter_own (stage : Stage) (rest : List (String × Stage)) :
    ((name, stage) :: rest).filter (·.1 ≠ name) = rest.filter (·.1 ≠ name) ∧
      ((name, stage) :: rest).filter (·.1 = name) = (name, stage) :: rest.filter (·.1 = name) := by
  constructor <;> simp

private theorem Waiting.turn (waiting : session.Waiting name work due?) :
    ∃ ahead behind, (session.drop name).requests = ahead ++ behind ∧
      let met := (resume ((session.drop name).gate.set ()).2 ahead session.store).2
      session.setReady.2.Settled name (work.run Backend.perform met).1 ∧
        session.setReady.2.drop name =
          (session.drop name).setReadyAround ahead behind fun store => (work.run Backend.perform store).2 := by
  obtain ⟨ahead, behind, divided, before, _, after⟩ := List.filter_eq_cons_iff.mp waiting.has
  have aheadOthers : ∀ entry ∈ ahead, entry.1 ≠ name := fun entry present => by simpa using before entry present
  have behindOthers : ∀ entry ∈ behind, entry.1 ≠ name := fun entry present => by
    simpa using List.filter_eq_nil_iff.mp after entry present
  have gate : ((session.drop name).gate.set ()).2 = (session.gate.set ()).2.drop name :=
    (Promise.drop_set () session.gate name).symm
  have first := resume_others (σ := σ) aheadOthers (session.gate.set ()).2
  have second := resume_others (σ := σ) behindOthers (session.gate.set ()).2
  have resumed := resume_append (session.gate.set ()).2 ahead ((name, .waiting work) :: behind) session.store
  rw [resume_cons, proceed_cleared waiting.cleared, ← divided] at resumed
  refine ⟨ahead, behind, ?_, .ended ?_, ?_⟩
  · rw [drop, divided]
    simp only [List.filter_append, (filter_own _ _).1, (filter_others aheadOthers).1,
      (filter_others behindOthers).1]
  · rw [Has, setReady_eq, resumed, gate, (first _).1]
    simp only [List.filter_append, (filter_others (first _).2).2, List.nil_append, (filter_own _ _).2,
      (filter_others (second _).2).2]
  · rw [setReady_eq, resumed, setReadyAround, gate, (first _).1]
    simp only [(second _).1, drop, List.filter_append, (filter_others (first _).2).1, (filter_own _ _).1,
      (filter_others (second _).2).1]

private theorem Waits.cons {prompt : σ → Option Answer × σ} {occurrence : Occurrence σ} (unready : occurrence ≠ .ready)
    (waits : Waits name prompt due? (occurrence.apply alone) (occurrence.apply joined) later) :
    Waits name prompt due? alone joined (occurrence :: later) := by
  have still : ∀ {occurrences : List (Occurrence σ)}, .ready ∉ occurrences → .ready ∉ occurrence :: occurrences :=
    fun none member => (List.mem_cons.mp member).elim (fun same => unready same.symm) none
  cases waits with
  | pending unready inTime unanswered effect => exact .pending (still unready) inTime unanswered effect
  | expired before rest divided unready passed answered effect =>
    exact .expired (occurrence :: before) rest (by rw [divided]; rfl) (still unready) passed answered effect
  | served before rest divided unready inTime ahead behind order met reached answered effect =>
    exact .served (occurrence :: before) rest (by rw [divided]; rfl) (still unready) inTime ahead behind order met
      reached answered effect

/-- By induction on what happens: a request that waits goes on to do so, until its deadline passes or the store
is ready. -/
private theorem Waiting.waits (waiting : joined.Waiting name work due?)
    (planned : service.plan now request = .ready work) (headers : List Bytes) (spared : Spared name later) :
    Waits name (service.promptly now request headers) due? (joined.drop name) joined later := by
  induction later generalizing joined with
  | nil => exact .pending List.not_mem_nil waiting.inTime waiting.answer?_eq_none rfl
  | cons occurrence rest ih =>
    obtain ⟨others, sparedThen⟩ := List.forall_mem_cons.mp spared
    by_cases ready : occurrence = .ready
    · subst ready
      obtain ⟨ahead, behind, order, settled, turn⟩ := waiting.turn
      obtain ⟨answered, effect⟩ := settled.run sparedThen
      have prompt := Service.promptly_ready (σ := σ) planned headers
      refine .served [] rest rfl List.not_mem_nil waiting.inTime ahead behind order _ rfl ?_ ?_
      · rw [prompt]
        exact answered
      · simp only [prompt]
        exact effect.trans (congrArg (run · rest) turn)
    · have passes : Passes name joined (occurrence.apply joined) := .apply others (fun _ => waiting.deaf) ready
      have apart : (occurrence.apply joined).drop name = occurrence.apply (joined.drop name) :=
        drop_apply others (fun _ => waiting.deaf) fun same => absurd same ready
      rcases waiting.next passes with still | ⟨settled, due, is, passed⟩
      · refine Waits.cons ready ?_
        rw [← apart]
        exact ih still sparedThen
      · obtain ⟨answered, effect⟩ := settled.run sparedThen
        rw [apart] at effect
        have clock : (occurrence.apply (joined.drop name)).gate.clock = (occurrence.apply joined).gate.clock :=
          congrArg (·.gate.clock) apart.symm
        exact .expired [occurrence] rest rfl (by simpa using Ne.symm ready) ⟨due, is, passed.trans_eq clock.symm⟩
          answered effect

/-! ### When it has come in -/

namespace Vacant

variable (vacant : alone.Vacant name)
include vacant

theorem enter_receiving (settings : alone.service = service) (time : alone.now = now) {state : UploadState}
    (planned : service.plan now request = .receiving state) (due? : Option Nat) :
    (alone.enter name due? (service.plan now request)).Receiving service now name request due? ∧
      (alone.enter name due? (service.plan now request)).drop name = alone := by
  rw [planned]
  exact ⟨⟨settings, time, ⟨state, planned, vacant.has_enlist _⟩, vacant.wait⟩, vacant.drop_enlist _⟩

theorem enter_refused (due? : Option Nat) (status : Status) :
    (alone.enter name due? (.refused status)).Settled name (.error status) ∧
      (alone.enter name due? (.refused status)).drop name = alone :=
  ⟨.ended (vacant.has_enlist _), vacant.drop_enlist _⟩

theorem enter_ready (ready : alone.gate.value? = some ()) (due? : Option Nat) (work : StoreDialogue Answer) :
    (alone.enter name due? (.ready work)).Settled name (work.run Backend.perform alone.store).1 ∧
      (alone.enter name due? (.ready work)).drop name =
        { alone with store := (work.run Backend.perform alone.store).2 } := by
  have cleared : isCleared (alone.gate.start name due?) name = true := by
    simp only [isCleared, Promise.wait?_start due? vacant.wait, ready, Option.bind_some,
      Wait.outcome?_poll_some () _ (show (⟨name, due?, .started⟩ : Wait Unit).outcome? = none from rfl)]
  have served : alone.enter name due? (.ready work) =
      ({ alone with
        gate := alone.gate.start name due?
        store := (work.run Backend.perform alone.store).2 } : Session σ).enlist name
          (.ended (work.run Backend.perform alone.store).1) := by
    simp only [enter, cleared, if_true, serve]
  rw [served]
  refine ⟨.ended ?_, vacant.drop_begun ..⟩
  rw [Has, enlist, List.filter_append, vacant.requests]
  simp

/-- A request that finds the store not ready fails if its deadline has passed, or waits. -/
theorem enter_unready (unset : alone.gate.value? = none) (due? : Option Nat) (work : StoreDialogue Answer) :
    (alone.enter name due? (.ready work)).drop name = alone ∧
      ((alone.enter name due? (.ready work)).Waiting name work due? ∨
        (alone.enter name due? (.ready work)).Settled name (.error PromiseError.deadlineExceeded.status) ∧
          ∃ due, due? = some due ∧ due ≤ alone.gate.clock) := by
  let wait := (⟨name, due?, .started⟩ : Wait Unit).poll none alone.gate.clock
  have begun : (alone.gate.start name due?).wait? name = some wait := by
    rw [Promise.wait?_start due? vacant.wait, unset]
  have outcome : wait.outcome? =
      if due?.any (· ≤ alone.gate.clock) then some (.error .deadlineExceeded) else none :=
    Wait.outcome?_poll_none alone.gate.clock rfl
  have uncleared : isCleared (alone.gate.start name due?) name = false := by
    simp only [isCleared, begun, Option.bind_some, outcome]
    cases due?.any (· ≤ alone.gate.clock) <;> rfl
  have joined : alone.enter name due? (.ready work) =
      ({ alone with gate := alone.gate.start name due? } : Session σ).enlist name (.waiting work) := by
    simp only [enter, uncleared, Bool.false_eq_true, if_false]
  have has : (alone.enter name due? (.ready work)).Has name (.waiting work) := by
    rw [joined, Has, enlist, List.filter_append, vacant.requests]
    simp
  have gate : (alone.enter name due? (.ready work)).gate = alone.gate.start name due? := by rw [joined]; rfl
  refine ⟨by rw [joined]; exact vacant.drop_begun .., ?_⟩
  split at outcome
  · next passed =>
    obtain ⟨due, is, passed⟩ := (Option.any_eq_true _ _).mp passed
    exact .inr ⟨.failed work has wait (gate ▸ begun) _ outcome rfl, due, is, of_decide_eq_true passed⟩
  · next inTime =>
    refine .inl ⟨?_, has, ⟨wait, gate ▸ begun, outcome, Wait.poll_deadline ..⟩, ?_⟩
    · rw [gate]
      exact unset
    · rintro due rfl
      simp only [Option.any_some, decide_eq_true_eq] at inTime
      rw [gate]
      exact Nat.le_of_lt (Nat.not_le.mp inTime)

/-- Wherever a request stands that has come in whole, a prompt answer or its deadline explains it. -/
theorem meets (settled : ∀ state, service.plan now request ≠ .receiving state) (headers : List Bytes)
    (due? : Option Nat) (spared : Spared name later) : Meets name (service.promptly now request headers) due? alone
      (alone.enter name due? (service.plan now request)) later := by
  cases planned : service.plan now request with
  | receiving state => exact absurd planned (settled state)
  | refused status =>
    obtain ⟨refused, dropped⟩ := vacant.enter_refused due? status
    obtain ⟨answered, effect⟩ := refused.run spared
    exact .regardless _ (Service.promptly_refused planned headers) answered (effect.trans (by rw [dropped]))
  | ready work =>
    have prompt := Service.promptly_ready (σ := σ) planned headers
    cases value : alone.gate.value? with
    | some done =>
      obtain ⟨served, dropped⟩ := vacant.enter_ready value due? work
      obtain ⟨answered, effect⟩ := served.run spared
      refine .atOnce value ?_ ?_
      · rw [prompt]
        exact answered
      · rw [prompt]
        exact effect.trans (by rw [dropped])
    | none =>
      refine .waits value ?_
      obtain ⟨dropped, waiting | ⟨failed, due, is, passed⟩⟩ := vacant.enter_unready value due? work
      · have waits := waiting.waits planned headers spared
        rwa [dropped] at waits
      · obtain ⟨answered, effect⟩ := failed.run spared
        rw [dropped] at effect
        exact .expired [] later rfl List.not_mem_nil ⟨due, is, passed⟩ answered effect

end Vacant

/-! ### While it comes in -/

/-- Either the upload is still open, or it has come in whole in between. -/
private inductive Arrives (service : Service) (now : Moment) (name : String) (request : Request) (due? : Option Nat)
    (alone joined : Session σ) (later : List (Occurrence σ)) : Prop where
  | receiving (receiving : (joined.run later).Receiving service now name (heard name request later) due?)
    (effect : (joined.run later).drop name = alone.run later)
  | came (before rest : List (Occurrence σ)) (divided : later = before ++ rest)
    (complete : Completes service now name request before) (vacant : (alone.run before).Vacant name)
    (entered : joined.run before =
      (alone.run before).enter name due? (service.plan now (heard name request before)))

private theorem Arrives.cons {occurrence : Occurrence σ} {state : UploadState}
    (planned : service.plan now request = .receiving state)
    (arrives : Arrives service now name (occurrence.heard name request) due? (occurrence.apply alone)
      (occurrence.apply joined) later) : Arrives service now name request due? alone joined (occurrence :: later) := by
  cases arrives with
  | receiving receiving effect => exact .receiving receiving effect
  | came before rest divided complete vacant entered =>
    refine .came (occurrence :: before) rest (by rw [divided]; rfl) ⟨complete.settled, ?_⟩ vacant entered
    intro early other more same
    rcases List.cons_eq_append_iff.mp same with ⟨rfl, _⟩ | ⟨earlier, rfl, divided⟩
    · exact ⟨state, planned⟩
    · exact complete.first earlier other more divided

private theorem Receiving.receive (receiving : joined.Receiving service now name request due?)
    (frame? : Option UploadFrame) : joined.receive name frame? =
      ((joined.drop name).receive name frame?).enter name due? (service.plan now (request.hear frame?)) ∧
    (joined.drop name).receive name frame? = (joined.drop name).settle := by
  obtain ⟨state, planned, has⟩ := receiving.has
  have alone : (joined.drop name).receive name frame? = (joined.drop name).settle := by
    rw [Session.receive, stage?_drop_self]
  refine ⟨?_, alone⟩
  rw [alone, Service.plan_hear_receiving planned, ← receiving.settings, ← receiving.time]
  cases frame? <;> simp only [Session.receive, has.stage?]

private theorem Vacant.arrives (vacant : alone.Vacant name) (settings : alone.service = service)
    (time : alone.now = now) (joins : joined = alone.enter name due? (service.plan now request))
    (goesOn : joined.Receiving service now name request due? →
      Arrives service now name request due? (joined.drop name) joined later) :
    Arrives service now name request due? alone joined later := by
  by_cases whole : ∀ state, service.plan now request ≠ .receiving state
  · exact .came [] later rfl ⟨whole, fun before occurrence rest none => by simp at none⟩ vacant joins
  · obtain ⟨state, planned⟩ := not_forall_not.mp whole
    obtain ⟨receiving, dropped⟩ := vacant.enter_receiving settings time planned due?
    rw [← joins] at receiving dropped
    exact dropped ▸ goesOn receiving

/-- By induction on what happens: an upload stays open until something comes in with which it is whole or wrong. -/
private theorem Receiving.arrives (receiving : joined.Receiving service now name request due?)
    (spared : Spared name later) : Arrives service now name request due? (joined.drop name) joined later := by
  induction later generalizing joined request with
  | nil => exact .receiving receiving rfl
  | cons occurrence rest ih =>
    obtain ⟨others, sparedThen⟩ := List.forall_mem_cons.mp spared
    obtain ⟨state, planned, has⟩ := receiving.has
    refine .cons planned ?_
    cases feeds : occurrence.feeds name with
    | false =>
      have deaf : occurrence.feeds name = true → joined.Deaf name := fun same => by simp [feeds] at same
      have apart : (occurrence.apply joined).drop name = occurrence.apply (joined.drop name) :=
        drop_apply others deaf fun _ => receiving.held
      have rests : Rests name joined (occurrence.apply joined) := by
        by_cases ready : occurrence = .ready
        · subst ready
          exact .setReady receiving.held
        · exact (Passes.apply others deaf ready).toRests
      rw [occurrence.heard_of_others feeds, ← apart]
      exact ih (receiving.rests rests) sparedThen
    | true =>
      obtain ⟨frame?, rfl⟩ := occurrence.eq_receive_of_feeds feeds
      obtain ⟨joins, settles⟩ := receiving.receive frame?
      have alone : (Occurrence.receive name frame?).apply (joined.drop name) = (joined.drop name).settle := settles
      have heard : (Occurrence.receive (σ := σ) name frame?).heard name request = request.hear frame? := if_pos rfl
      rw [settles] at joins
      rw [alone, heard]
      exact (vacant_drop joined name).settle.arrives receiving.settings receiving.time joins (ih · sparedThen)

/-- Wherever a request stands that was started, what has come in of it explains it, and then a prompt answer or its
deadline. -/
private theorem stands (session : Session σ) (name : String) (request : Request) (headers : List Bytes)
    (spared : Spared name later) : Stands session.service session.now name request headers (session.due? headers)
      (session.without name) (session.start name request headers) later := by
  have vacant : (session.without name).Vacant name := (vacant_drop session name).settle
  have arrives : Arrives session.service session.now name request (session.due? headers) (session.without name)
      (session.start name request headers) later :=
    vacant.arrives rfl rfl rfl fun receiving => receiving.arrives spared
  cases arrives with
  | receiving receiving effect =>
    obtain ⟨state, planned, _⟩ := receiving.has
    exact .receiving state planned receiving.answer?_eq_none effect
  | came before rest divided complete vacant entered =>
    have sparedThen : Spared name rest := fun occurrence member =>
      spared occurrence (divided ▸ List.mem_append_right before member)
    have meets := vacant.meets complete.settled headers (session.due? headers) sparedThen
    rw [← entered] at meets
    refine .came before rest divided complete ?_ meets
    rw [divided, heard, List.foldl_append]
    exact plan_heard_settled complete.settled rest

/-! ### All together -/

/-- How a request is answered while nothing happens beside it. -/
inductive Called (session : Session σ) (request : Request) (headers : List Bytes) : Prop where
  /-- An upload that is left open is not answered. -/
  | receiving (state : UploadState) (planned : session.service.plan session.now request = .receiving state)
    (unanswered : session.call request headers = (none, session))
  | prompt (ready : session.gate.value? = some () ∨
      ∃ status, session.service.plan session.now request = .refused status)
    (answered : session.call request headers =
      let (answer?, store) := session.service.promptly session.now request headers session.store
      (answer?, { session with store := store }))
  /-- The store is not ready, and time passes until the deadline. -/
  | late (unready : session.gate.value? = none) (due : Nat) (is : session.due? headers = some due)
    (answered : session.call request headers =
      (some (.error PromiseError.deadlineExceeded.status), { session with gate := session.gate.elapse due }))
  /-- The store is not ready, and there is no deadline. -/
  | unanswered (unready : session.gate.value? = none) (endless : session.due? headers = none)
    (unanswered : session.call request headers = (none, session))

private theorem called (session : Session σ) (request : Request) (headers : List Bytes) :
    Called session request headers := by
  cases planned : session.service.plan session.now request with
  | refused status =>
    refine .prompt (.inr ⟨status, planned⟩) ?_
    rw [call_refused headers planned, Service.promptly_refused planned]
  | receiving state => exact .receiving state planned (by simp only [call, planned])
  | ready work =>
    cases value : session.gate.value? with
    | some done =>
      refine .prompt (.inl value) ?_
      rw [call_ready value headers planned, Service.promptly_ready planned]
    | none =>
      cases due : session.due? headers with
      | none => exact .unanswered value due (by simp only [call, planned, due, Promise.await, value])
      | some time => exact .late value time due (by simp only [call, planned, due, Promise.await, value])

/-- Waiting for the store makes no difference but in time. -/
structure Gated (σ : Type) [Backend σ] (request : Request) : Prop where
  /-- Whatever happens beside it, a request that is started stands where a prompt answer or its deadline puts it, -/
  started : ∀ (session : Session σ) name headers later, Spared name later →
    Stands session.service session.now name request headers (session.due? headers) (session.without name)
      (session.start name request headers) later
  /-- and so does one that is called while nothing happens beside it. -/
  called : ∀ (session : Session σ) headers, Called session request headers
  /-- What is wrong in itself is refused in the same words at all times, be the store ready then, later or never, -/
  refused : ∀ service : Service, request.Invalid service.maxMessageSize → ∃ message, ∀ session : Session σ,
    session.service = service →
      (∀ headers, session.call request headers = (some (.error ⟨.invalidArgument, message⟩), session)) ∧
      /- also when it came in bit by bit. -/
      ∀ begun name headers later, Spared name later → heard name begun later = request →
        ((session.start name begun headers).run later).answer? name = some (.error ⟨.invalidArgument, message⟩) ∧
        ((session.start name begun headers).run later).drop name = (session.without name).run later

private theorem Arrives.refused {status : Status}
    (arrives : Arrives service now name request due? alone joined later)
    (planned : service.plan now (heard name request later) = .refused status) (spared : Spared name later) :
    (joined.run later).answer? name = some (.error status) ∧ (joined.run later).drop name = alone.run later := by
  cases arrives with
  | receiving receiving effect =>
    obtain ⟨state, goesOn, _⟩ := receiving.has
    rw [planned] at goesOn
    cases goesOn
  | came before rest divided complete vacant entered =>
    have same : service.plan now (heard name request before) = .refused status := by
      rw [← planned, divided, heard, heard, List.foldl_append]
      exact (plan_heard_settled complete.settled rest).symm
    rw [same] at entered
    obtain ⟨settled, dropped⟩ := vacant.enter_refused due? status
    have sparedThen : Spared name rest := fun occurrence member =>
      spared occurrence (divided ▸ List.mem_append_right before member)
    obtain ⟨answered, effect⟩ := settled.run sparedThen
    rw [dropped, ← entered] at effect
    rw [← entered] at answered
    rw [divided, run, run, List.foldl_append, List.foldl_append]
    exact ⟨answered, effect⟩

/-- Every request is gated like this, before a store of any kind. -/
theorem gated {σ : Type} [Backend σ] (request : Request) : Gated σ request where
  started session name headers _ spared := stands session name request headers spared
  called session headers := called session request headers
  refused := by
    rintro _ invalid
    obtain ⟨message, refused⟩ := Service.plan_invalid invalid
    refine ⟨message, ?_⟩
    rintro session rfl
    refine ⟨fun headers => call_refused headers (refused session.now), ?_⟩
    rintro begun name headers later spared rfl
    have vacant : (session.without name).Vacant name := (vacant_drop session name).settle
    have arrives : Arrives session.service session.now name begun (session.due? headers) (session.without name)
        (session.start name begun headers) later :=
      vacant.arrives rfl rfl rfl fun receiving => receiving.arrives spared
    exact arrives.refused (refused session.now) spared

/-- An upload whose last message comes after its deadline, and one that comes in time. -/
example :
    let session := Session.new ⟨1, none, 200⟩ ⟨1600000000, 5⟩ (Storage.Store.new .memory) false
    let upload (modelId : String) : Request :=
      .upload [.message (.header (some ⟨modelId, 0, 1, false, "", 1, ∅⟩))] false
    let joined := (session.start "a" (upload "m") ["3m".toUTF8.toList]).start "b" (upload "n") ["9m".toUTF8.toList]
    let after := joined.run [.sleep 5, .receive "a" (some (.message (.body [1]))), .receive "a" none,
      .receive "b" (some (.message (.body [2]))), .receive "b" none, .ready]
    after.answer? "a" = some (.error PromiseError.deadlineExceeded.status) ∧
      after.answer? "b" = some (.ok (.uploaded ⟨some ⟨"n", 1, 1, false, Digest.text [2], 1, ∅⟩⟩)) := by
  decide +kernel

end Session

end ModelVault
