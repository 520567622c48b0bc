import ModelVault.Proofs.Service.Polling
import ModelVault.Proofs.Service.Work

/-!
Sessions and the requests that they started, looked at from beside. What is done for others leaves a request
where it is, but for the time that passes; and it comes to the same without the request.
-/

namespace ModelVault

namespace Promise

variable {α : Type} {name other : String} {before between after promise : Promise α}

/-! ### What becomes of a wait -/

/-- A name that nobody waits under stays so, and a wait that has ended stays as it is. -/
structure Rests (name : String) (before after : Promise α) : Prop where
  absent : before.wait? name = none → after.wait? name = none
  ended : ∀ wait outcome, before.wait? name = some wait → wait.outcome? = some outcome →
    after.wait? name = some wait

namespace Rests

theorem of_polled {value? : Option α} {clock : Nat}
    (wait : after.wait? name = (before.wait? name).map (·.poll value? clock)) : Rests name before after where
  absent absent := by rw [wait, absent, Option.map_none]
  ended one outcome found ended := by rw [wait, found, Option.map_some, Wait.poll_of_ended _ _ ended]

theorem trans (first : Rests name before between) (second : Rests name between after) : Rests name before after where
  absent absent := second.absent (first.absent absent)
  ended wait outcome found ended := second.ended wait outcome (first.ended wait outcome found ended) ended

theorem set (value : α) (promise : Promise α) : Rests name promise (promise.set value).2 := by
  cases present : promise.value? with
  | some other =>
    rw [set_of_some present]
    exact ⟨id, fun _ _ found _ => found⟩
  | none => exact of_polled (wait?_set present name)

end Rests

/-- Time passes for the wait of a name, and no value comes. -/
structure Passes (name : String) (before after : Promise α) : Prop extends Rests name before after where
  value : after.value? = before.value?
  clock : before.clock ≤ after.clock
  /-- A wait that is in time stays so or ends when its deadline has passed. -/
  pending : ∀ wait, before.value? = none → before.wait? name = some wait → wait.outcome? = none →
    (∀ due, wait.deadline = some due → before.clock ≤ due) →
      ∃ later, after.wait? name = some later ∧ later.deadline = wait.deadline ∧
        (later.outcome? = none ∧ (∀ due, wait.deadline = some due → after.clock ≤ due) ∨
          later.outcome? = some (.error .deadlineExceeded) ∧ ∃ due, wait.deadline = some due ∧ due ≤ after.clock)

namespace Passes

theorem of_same (value : after.value? = before.value?) (clock : after.clock = before.clock)
    (wait : after.wait? name = before.wait? name) : Passes name before after where
  absent := fun absent => wait.trans absent
  ended := fun _ _ found _ => wait.trans found
  value := value
  clock := Nat.le_of_eq clock.symm
  pending := fun one _ found pending inTime =>
    ⟨one, wait.trans found, rfl, .inl ⟨pending, fun due same => clock ▸ inTime due same⟩⟩

theorem refl (promise : Promise α) : Passes name promise promise :=
  of_same rfl rfl rfl

theorem trans (first : Passes name before between) (second : Passes name between after) :
    Passes name before after where
  toRests := first.toRests.trans second.toRests
  value := second.value.trans first.value
  clock := Nat.le_trans first.clock second.clock
  pending := by
    intro wait unset found pending inTime
    obtain ⟨later, found, same, still | ⟨ended, due, is, passed⟩⟩ := first.pending wait unset found pending inTime
    · rw [← same]
      exact second.pending later (first.value.trans unset) found still.1 (same ▸ still.2)
    · exact ⟨later, second.ended later _ found ended, same,
        .inr ⟨ended, due, is, Nat.le_trans passed second.clock⟩⟩

theorem of_polled {time : Nat} (value : after.value? = before.value?)
    (wait : after.wait? name = (before.wait? name).map (·.poll before.value? time))
    (clock : before.clock ≤ after.clock) (reached : time ≤ after.clock) (near : after.clock ≤ time + 1) :
    Passes name before after := by
  refine ⟨.of_polled wait, value, clock, fun one unset found pending inTime => ?_⟩
  rw [found, unset, Option.map_some] at wait
  refine ⟨_, wait, Wait.poll_deadline .., ?_⟩
  rw [Wait.outcome?_poll_none time pending]
  split
  · next due =>
    obtain ⟨due, is, passed⟩ := (Option.any_eq_true _ _).mp due
    exact .inr ⟨rfl, due, is, Nat.le_trans (of_decide_eq_true passed) reached⟩
  · next notDue =>
    refine .inl ⟨rfl, fun due is => ?_⟩
    simp only [Wait.isDue, is, Option.any_some, decide_eq_true_eq] at notDue
    omega

theorem settle (promise : Promise α) : Passes name promise promise.settle :=
  of_polled rfl (wait?_settle promise name) (Nat.le_refl _) (Nat.le_refl _) (Nat.le_succ _)

theorem elapse (promise : Promise α) (clock : Nat) : Passes name promise (promise.elapse clock) := by
  by_cases later : promise.clock < clock
  · have time : (promise.elapse clock).clock = clock := Nat.max_eq_right (Nat.le_of_lt later)
    exact of_polled rfl (wait?_elapse_of_lt later name) (Nat.le_max_left ..) (by omega) (by omega)
  · rw [elapse_of_le (Nat.not_lt.mp later)]
    exact refl promise

theorem start (different : other ≠ name) (deadline : Option Nat) :
    Passes name promise (promise.start other deadline) :=
  of_same rfl rfl (wait?_start_other different deadline)

theorem drop (different : other ≠ name) : Passes name promise (promise.drop other) :=
  of_same rfl rfl (wait?_drop (Ne.symm different))

theorem await (promise : Promise α) (deadline : Option Nat) : Passes name promise (promise.await deadline).2 := by
  unfold Promise.await
  split
  · exact refl promise
  · exact elapse ..
  · exact refl promise

theorem join (promise : Promise α) (other : String) : Passes name promise (promise.join other).2 := by
  refine (settle promise).trans ?_
  unfold Promise.join
  generalize promise.settle = promise
  dsimp only
  split
  · exact refl promise
  · split
    · exact refl promise
    · exact (elapse ..).trans (settle _)
    · exact refl promise

end Passes

end Promise

namespace Session

open Storage (Backend)

variable {σ : Type} {name other : String} {before between after session : Session σ}

/-! ### Occurrences -/

/-- What may happen next in a session. Others may share the store, so that its contents may change. -/
inductive Occurrence (σ : Type) where
  | start (name : String) (request : Request) (headers : List Bytes)
  /-- The next message of a started upload comes, or its end. -/
  | receive (name : String) (frame? : Option UploadFrame)
  | call (request : Request) (headers : List Bytes)
  | ready
  | sleep (milliseconds : Nat)
  | join (name : String)
  | abort (name : String)
  | changed (store : σ)

def Occurrence.apply [Backend σ] (occurrence : Occurrence σ) (session : Session σ) : Session σ :=
  match occurrence with
  | .start name request headers => session.start name request headers
  | .receive name frame? => session.receive name frame?
  | .call request headers => (session.call request headers).2
  | .ready => session.setReady.2
  | .sleep milliseconds => session.sleep milliseconds
  | .join name => (session.join name).2
  | .abort name => (session.abort name).2
  | .changed store => { session with store := store }

/-- The occurrence starts a request of this name, or ends the one that there is. -/
def Occurrence.concerns (name : String) : Occurrence σ → Bool
  | .start other _ _ | .join other | .abort other => other = name
  | _ => false

/-- The occurrence brings more of the upload of this name. -/
def Occurrence.feeds (name : String) : Occurrence σ → Bool
  | .receive other _ => other = name
  | _ => false

def Spared (name : String) (occurrences : List (Occurrence σ)) : Prop :=
  ∀ occurrence ∈ occurrences, occurrence.concerns name = false

def run [Backend σ] (session : Session σ) (occurrences : List (Occurrence σ)) : Session σ :=
  occurrences.foldl (fun session occurrence => occurrence.apply session) session

theorem run_cons [Backend σ] (session : Session σ) (occurrence : Occurrence σ) (rest : List (Occurrence σ)) :
    session.run (occurrence :: rest) = (occurrence.apply session).run rest :=
  rfl

/-! ### The request of a name -/

/-- There is one request of this name, and it stands here. -/
def Has (name : String) (stage : Stage) (session : Session σ) : Prop :=
  session.requests.filter (·.1 = name) = [(name, stage)]

/-- No upload of this name takes anything in. -/
def Deaf (name : String) (session : Session σ) : Prop :=
  ∀ due state, session.stage? name ≠ some (.receiving due state)

theorem stage?_eq (name : String) (session : Session σ) :
    session.stage? name = ((session.requests.filter (·.1 = name)).head?).map (·.2) := by
  rw [stage?, List.head?_filter]

theorem Has.stage? {stage : Stage} (has : session.Has name stage) : session.stage? name = some stage := by
  rw [stage?_eq, has]
  rfl

theorem stage?_drop_self (session : Session σ) (name : String) : (session.drop name).stage? name = none := by
  have gone : (session.drop name).requests.filter (·.1 = name) = [] :=
    List.filter_eq_nil_iff.mpr fun entry member => by simpa using (List.mem_filter.mp member).2
  rw [stage?_eq, gone]
  rfl

theorem stage?_drop (different : other ≠ name) : (session.drop name).stage? other = session.stage? other := by
  rw [stage?, stage?, drop, List.find?_filter]
  congr 1
  refine List.find?_congr fun entry _ => ?_
  by_cases here : entry.1 = other
  · simp [here, different]
  · simp [here]

/-! ### What becomes of a request -/

/-- A request stays where it stands, and so does a wait of it that has ended. -/
structure Rests (name : String) (before after : Session σ) : Prop where
  gate : before.gate.Rests name after.gate
  requests : after.requests.filter (·.1 = name) = before.requests.filter (·.1 = name)
  service : after.service = before.service
  now : after.now = before.now

/-- Time passes for a request, and the store does not become ready. -/
structure Passes (name : String) (before after : Session σ) : Prop extends Rests name before after where
  gate_passes : before.gate.Passes name after.gate

namespace Passes

theorem of_gate {gate : Promise Unit} (passes : session.gate.Passes name gate) (store : σ) :
    Passes name session { session with gate := gate, store := store } where
  gate := passes.toRests
  requests := rfl
  service := rfl
  now := rfl
  gate_passes := passes

theorem of_store (store : σ) : Passes name session { session with store := store } :=
  of_gate (.refl _) store

theorem trans (first : Passes name before between) (second : Passes name between after) :
    Passes name before after where
  gate := first.gate.trans second.gate
  requests := second.requests.trans first.requests
  service := second.service.trans first.service
  now := second.now.trans first.now
  gate_passes := first.gate_passes.trans second.gate_passes

theorem settle (session : Session σ) : Passes name session session.settle :=
  of_gate (.settle _) _

theorem drop (different : other ≠ name) : Passes name session (session.drop other) where
  gate := (Promise.Passes.drop different).toRests
  requests := by
    rw [Session.drop, List.filter_filter]
    refine List.filter_congr fun entry _ => ?_
    by_cases here : entry.1 = name
    · simp [here, Ne.symm different]
    · simp [here]
  service := rfl
  now := rfl
  gate_passes := .drop different

theorem enlist (different : other ≠ name) (stage : Stage) : Passes name session (session.enlist other stage) where
  gate := (Promise.Passes.refl _).toRests
  requests := by simp [Session.enlist, List.filter_append, different]
  service := rfl
  now := rfl
  gate_passes := .refl _

variable [Backend σ]

theorem enter (different : other ≠ name) (due : Option Nat) (plan : Plan (StoreDialogue Answer))
    (session : Session σ) : Passes name session (session.enter other due plan) := by
  have started : Passes name session { session with gate := session.gate.start other due } :=
    of_gate (.start different due) session.store
  unfold Session.enter
  split
  · exact enlist different _
  · exact enlist different _
  · dsimp only
    split
    · exact (started.trans (of_store _)).trans (enlist different _)
    · exact started.trans (enlist different _)

/-- To take in more of an upload is nothing to others, nor is it for one that takes in nothing. -/
theorem receive (deaf : other = name → session.Deaf name) (frame? : Option UploadFrame) :
    Passes name session (session.receive other frame?) := by
  unfold Session.receive
  split
  · next due state receiving =>
    have different : other ≠ name := fun same => deaf same due state (same ▸ receiving)
    exact ((drop different).trans (settle _)).trans (enter different ..)
  · exact settle session

theorem call (session : Session σ) (request : Request) (headers : List Bytes) :
    Passes name session (session.call request headers).2 := by
  unfold Session.call
  split
  · exact of_store _
  · exact of_store _
  · dsimp only
    split <;> exact of_gate (.await ..) _

/-- What happens to others, the store not becoming ready, takes nothing but time. -/
theorem apply {occurrence : Occurrence σ} (others : occurrence.concerns name = false)
    (deaf : occurrence.feeds name = true → session.Deaf name) (unready : occurrence ≠ .ready) :
    Passes name session (occurrence.apply session) := by
  cases occurrence with
  | start other request headers =>
    have different : other ≠ name := by simpa [Occurrence.concerns] using others
    exact ((drop different).trans (settle _)).trans (enter different ..)
  | receive other frame? => exact receive (fun same => deaf (by simpa [Occurrence.feeds] using same)) frame?
  | call request headers => exact call ..
  | ready => exact absurd rfl unready
  | sleep milliseconds => exact of_gate ((Promise.Passes.settle _).trans (.elapse ..)) _
  | join other => exact of_gate (.join ..) _
  | abort other => exact drop (by simpa [Occurrence.concerns] using others)
  | changed store => exact of_store store

end Passes

/-! ### The store becomes ready -/

/-- A request of this name may not go on, if it waits at all. -/
def Held (gate : Promise Unit) (name : String) (requests : List (String × Stage)) : Prop :=
  ∀ work, (name, Stage.waiting work) ∈ requests → isCleared gate name = false

theorem isCleared_drop (gate : Promise Unit) (different : other ≠ name) :
    isCleared (gate.drop name) other = isCleared gate other := by
  rw [isCleared, isCleared, Promise.wait?_drop different]

section Resume

variable [Backend σ] {gate : Promise Unit} {entry : String × Stage} {requests : List (String × Stage)}

theorem resume_cons (gate : Promise Unit) (entry : String × Stage) (rest : List (String × Stage)) (store : σ) :
    resume gate (entry :: rest) store =
      ((proceed gate entry store).1 :: (resume gate rest (proceed gate entry store).2).1,
        (resume gate rest (proceed gate entry store).2).2) :=
  rfl

theorem resume_append (gate : Promise Unit) (first second : List (String × Stage)) (store : σ) :
    resume gate (first ++ second) store =
      ((resume gate first store).1 ++ (resume gate second (resume gate first store).2).1,
        (resume gate second (resume gate first store).2).2) := by
  induction first generalizing store with
  | nil => rfl
  | cons entry rest ih => rw [List.cons_append, resume_cons, resume_cons, ih, List.cons_append]

theorem proceed_name (gate : Promise Unit) (entry : String × Stage) (store : σ) :
    (proceed gate entry store).1.1 = entry.1 := by
  unfold proceed
  split
  · split <;> rfl
  · rfl

theorem proceed_cleared (cleared : isCleared gate name = true) (work : StoreDialogue Answer) (store : σ) :
    proceed gate (name, .waiting work) store =
      ((name, .ended (work.run Backend.perform store).1), (work.run Backend.perform store).2) := by
  rw [proceed, if_pos cleared]

theorem proceed_held (held : Held gate entry.1 [entry]) (store : σ) : proceed gate entry store = (entry, store) := by
  rcases entry with ⟨name, receiving | work | answer⟩
  · rfl
  · rw [proceed, held work (List.mem_singleton.mpr rfl), if_neg Bool.false_ne_true]
  · rfl

theorem proceed_drop (different : entry.1 ≠ name) (store : σ) :
    proceed (gate.drop name) entry store = proceed gate entry store := by
  unfold proceed
  split
  · rw [isCleared_drop gate different]
  · rfl

theorem filter_resume (held : Held gate name requests) (store : σ) :
    (resume gate requests store).1.filter (·.1 = name) = requests.filter (·.1 = name) := by
  induction requests generalizing store with
  | nil => rfl
  | cons entry rest ih =>
    have others := ih fun work member => held work (List.mem_cons_of_mem _ member)
    rw [resume_cons, List.filter_cons, List.filter_cons, proceed_name, others]
    by_cases here : entry.1 = name
    · have kept : Held gate entry.1 [entry] := by
        intro work member
        rw [here] at member ⊢
        exact held work (List.mem_cons.mpr (.inl (List.mem_singleton.mp member)))
      rw [proceed_held kept]
    · simp [here]

theorem resume_drop (held : Held gate name requests) (store : σ) :
    resume (gate.drop name) (requests.filter (·.1 ≠ name)) store =
      ((resume gate requests store).1.filter (·.1 ≠ name), (resume gate requests store).2) := by
  induction requests generalizing store with
  | nil => rfl
  | cons entry rest ih =>
    have others := ih fun work member => held work (List.mem_cons_of_mem _ member)
    rw [resume_cons, List.filter_cons, List.filter_cons, proceed_name]
    by_cases here : entry.1 = name
    · have kept : Held gate entry.1 [entry] := by
        intro work member
        rw [here] at member ⊢
        exact held work (List.mem_cons.mpr (.inl (List.mem_singleton.mp member)))
      simp only [here, ne_eq, not_true_eq_false, decide_false, Bool.false_eq_true, if_false, others,
        proceed_held kept]
    · simp only [here, ne_eq, not_false_eq_true, decide_true, if_true]
      rw [resume_cons, proceed_drop here, others]

theorem setReady_eq (session : Session σ) : session.setReady.2 =
    { session with
      gate := (session.gate.set ()).2
      requests := (resume (session.gate.set ()).2 session.requests session.store).1
      store := (resume (session.gate.set ()).2 session.requests session.store).2 } :=
  rfl

theorem Rests.setReady (held : Held (session.gate.set ()).2 name session.requests) :
    Rests name session session.setReady.2 where
  gate := .set () session.gate
  requests := filter_resume held session.store
  service := rfl
  now := rfl

end Resume

/-! ### What is the same without a request -/

theorem drop_drop (session : Session σ) (name other : String) :
    (session.drop other).drop name = (session.drop name).drop other := by
  simp only [drop, Promise.drop_drop _ name other, List.filter_filter, Bool.and_comm]

theorem drop_settle (session : Session σ) (name : String) : session.settle.drop name = (session.drop name).settle := by
  simp only [drop, settle, Promise.drop_settle]

theorem drop_enlist (different : other ≠ name) (stage : Stage) (session : Session σ) :
    (session.enlist other stage).drop name = (session.drop name).enlist other stage := by
  simp [drop, enlist, List.filter_append, different]

theorem due?_drop (headers : List Bytes) (session : Session σ) (name : String) :
    (session.drop name).due? headers = session.due? headers :=
  rfl

theorem drop_join (different : other ≠ name) (session : Session σ) :
    (session.join other).2.drop name = ((session.drop name).join other).2 := by
  simp only [join, drop, Promise.drop_join different]

section Without

variable [Backend σ]

theorem drop_enter (different : other ≠ name) (due : Option Nat) (plan : Plan (StoreDialogue Answer))
    (session : Session σ) :
    (session.enter other due plan).drop name = (session.drop name).enter other due plan := by
  have gate : (session.drop name).gate.start other due = (session.gate.start other due).drop name :=
    (Promise.drop_start different due).symm
  cases plan with
  | refused status => exact drop_enlist different _ session
  | receiving state => exact drop_enlist different _ session
  | ready work =>
    simp only [enter, gate, isCleared_drop _ different]
    split
    · exact drop_enlist different _ _
    · exact drop_enlist different _ _

theorem drop_start (different : other ≠ name) (session : Session σ) (request : Request) (headers : List Bytes) :
    (session.start other request headers).drop name = (session.drop name).start other request headers := by
  rw [start, start, drop_enter different, drop_settle, drop_drop, due?_drop]
  rfl

theorem drop_receive (deaf : other = name → session.Deaf name) (frame? : Option UploadFrame) :
    (session.receive other frame?).drop name = (session.drop name).receive other frame? := by
  by_cases same : other = name
  · subst same
    unfold receive
    rw [stage?_drop_self]
    split
    · next due state receiving => exact absurd receiving (deaf rfl due state)
    · exact drop_settle session other
  · unfold receive
    rw [stage?_drop same]
    split
    · rw [drop_enter same, drop_settle, drop_drop]
      rfl
    · exact drop_settle session name

theorem drop_call (session : Session σ) (request : Request) (headers : List Bytes) (name : String) :
    (session.call request headers).2.drop name = ((session.drop name).call request headers).2 := by
  have plan : (session.drop name).service.plan (session.drop name).now = session.service.plan session.now := rfl
  have gate : (session.drop name).gate = session.gate.drop name := rfl
  have value : (session.gate.drop name).value? = session.gate.value? := rfl
  simp only [call, plan, gate, due?_drop, Promise.await, value]
  cases session.service.plan session.now request with
  | refused status => rfl
  | receiving state => rfl
  | ready work =>
    cases session.gate.value? with
    | some value => rfl
    | none =>
      cases session.due? headers with
      | none => rfl
      | some due =>
        simp only [drop, Promise.drop_elapse]

theorem drop_setReady (held : Held (session.gate.set ()).2 name session.requests) :
    session.setReady.2.drop name = (session.drop name).setReady.2 := by
  have resumed := resume_drop held session.store
  simp only [setReady_eq, drop, Promise.drop_set] at resumed ⊢
  rw [resumed]

theorem drop_apply {occurrence : Occurrence σ} (others : occurrence.concerns name = false)
    (deaf : occurrence.feeds name = true → session.Deaf name)
    (held : occurrence = .ready → Held (session.gate.set ()).2 name session.requests) :
    (occurrence.apply session).drop name = occurrence.apply (session.drop name) := by
  cases occurrence with
  | start other request headers => exact drop_start (by simpa [Occurrence.concerns] using others) ..
  | receive other frame? => exact drop_receive (fun same => deaf (by simpa [Occurrence.feeds] using same)) frame?
  | call request headers => exact drop_call ..
  | ready => exact drop_setReady (held rfl)
  | sleep milliseconds =>
    simp only [Occurrence.apply, sleep, drop, Promise.drop_elapse, Promise.drop_settle]
    rfl
  | join other => exact drop_join (by simpa [Occurrence.concerns] using others) session
  | abort other => exact drop_drop ..
  | changed store => rfl

end Without

/-! ### Requests that have come to their end -/

/-- The request of a name has its answer, which it keeps. -/
inductive Settled (name : String) (answer : Answer) (session : Session σ) : Prop where
  | ended (has : session.Has name (.ended answer))
  /-- It has something left to do, but has failed to wait for the store. -/
  | failed (work : StoreDialogue Answer) (has : session.Has name (.waiting work)) (wait : Wait Unit)
    (found : session.gate.wait? name = some wait) (failure : PromiseError)
    (outcome : wait.outcome? = some (.error failure)) (told : answer = .error failure.status)

namespace Settled

variable {answer : Answer}

theorem answer? (settled : session.Settled name answer) : session.answer? name = some answer := by
  cases settled with
  | ended has => rw [Session.answer?, has.stage?]
  | failed work has wait found failure outcome told =>
    rw [Session.answer?, has.stage?]
    simp only [found, Option.bind_some, outcome, told]

theorem deaf (settled : session.Settled name answer) : session.Deaf name := by
  intro due state receiving
  cases settled with
  | ended has => rw [has.stage?] at receiving; cases receiving
  | failed work has => rw [has.stage?] at receiving; cases receiving

theorem held (settled : session.Settled name answer) : Held (session.gate.set ()).2 name session.requests := by
  intro work member
  have listed : (name, Stage.waiting work) ∈ session.requests.filter (·.1 = name) :=
    List.mem_filter.mpr ⟨member, by simp⟩
  cases settled with
  | ended has =>
    rw [has, List.mem_singleton] at listed
    cases listed
  | failed other has wait found failure outcome told =>
    have still := (Promise.Rests.set () session.gate).ended wait _ found outcome
    simp only [isCleared, still, Option.bind_some, outcome]

theorem rests (settled : before.Settled name answer) (rests : Rests name before after) :
    after.Settled name answer := by
  cases settled with
  | ended has => exact .ended (rests.requests.trans has)
  | failed work has wait found failure outcome told =>
    exact .failed work (rests.requests.trans has) wait (rests.gate.ended wait _ found outcome) failure outcome told

/-- By induction on what happens: a request that has come to its end keeps its answer, and all else comes to the
same without it. -/
theorem run [Backend σ] (settled : session.Settled name answer) {later : List (Occurrence σ)}
    (spared : Spared name later) :
    (session.run later).answer? name = some answer ∧
      (session.run later).drop name = (session.drop name).run later := by
  induction later generalizing session with
  | nil => exact ⟨settled.answer?, rfl⟩
  | cons occurrence rest ih =>
    obtain ⟨others, sparedThen⟩ := List.forall_mem_cons.mp spared
    have still : (occurrence.apply session).Settled name answer := by
      refine settled.rests ?_
      by_cases ready : occurrence = .ready
      · subst ready
        exact .setReady settled.held
      · exact (Passes.apply others (fun _ => settled.deaf) ready).toRests
    rw [run_cons, run_cons, ← drop_apply others (fun _ => settled.deaf) fun _ => settled.held]
    exact ih still sparedThen

end Settled

end Session

end ModelVault
