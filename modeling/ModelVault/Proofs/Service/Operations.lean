import ModelVault.Proofs.Service.Acts

/-!
What sessions do to promises, as acts. An operation lets everybody look at once or lets time pass up to a deadline,
and comes to the same as some acts, one after the other; to await a promise is to begin a wait of one's own.
-/

namespace ModelVault

namespace Promise

variable {α : Type}

/-- What sessions do to a promise. -/
inductive Operates (promise : Promise α) : Promise α → Prop where
  | set (value : α) : Operates promise (promise.set value).2
  | start (name : String) (deadline : Option Nat) (fresh : promise.wait? name = none) :
    Operates promise (promise.start name deadline)
  | settle : Operates promise promise.settle
  | elapse (clock : Nat) : Operates promise (promise.elapse clock)
  | drop (name : String) : Operates promise (promise.drop name)
  | await (deadline : Option Nat) : Operates promise (promise.await deadline).2
  | join (name : String) : Operates promise (promise.join name).2

/-- The act is a step of a wait, or time that passes. -/
def Act.isIdle : Act α → Bool
  | .advance _ | .pass _ => true
  | _ => false

def Idle (acts : List (Act α)) : Prop :=
  ∀ act ∈ acts, act.isIdle = true

private theorem Idle.append {acts more : List (Act α)} (first : Idle acts) (second : Idle more) :
    Idle (acts ++ more) :=
  fun act member => (List.mem_append.mp member).elim (first act) (second act)

private theorem idle_pass (milliseconds : Nat) : Idle [Act.pass (α := α) milliseconds] :=
  fun _ member => List.mem_singleton.mp member ▸ rfl

/-- The acts that let waits go as far as they get, one after the other. -/
def polls (names : List String) : List (Act α) :=
  names.flatMap fun name => [.advance name, .advance name, .advance name]

private theorem idle_polls (names : List String) : Idle (polls (α := α) names) := by
  intro act member
  obtain ⟨name, _, member⟩ := List.mem_flatMap.mp member
  simp only [List.mem_cons, List.not_mem_nil, or_false, or_self] at member
  rw [member]
  rfl

/-- Sleep makes no difference: who sleeps would be left as he is by a step. -/
private theorem promise_advance (acts : List (Act α)) (name : String) :
    (run (acts ++ [.advance name])).promise = (run acts).promise.step name := by
  rw [run_concat, Act.apply]
  split
  · next asleep =>
    have unchanged : ∀ wait ∈ (run acts).promise.waits, (if wait.name = name then
        wait.advance (run acts).promise.value? (run acts).promise.clock else wait) = wait := by
      intro wait member
      split
      · next here => exact Wait.advance_of_looksInVain ((kept_run acts).asleep wait member (here ▸ asleep))
      · rfl
    rw [step, List.map_congr_left unchanged, List.map_id']
  · rfl

def pollEach (names : List String) (promise : Promise α) : Promise α :=
  { promise with waits := promise.waits.map fun wait =>
      if wait.name ∈ names then wait.poll promise.value? promise.clock else wait }

private theorem step_thrice (promise : Promise α) (name : String) :
    ((promise.step name).step name).step name = promise.pollEach [name] := by
  simp only [step, pollEach, List.map_map]
  refine congrArg (Promise.mk _ _) (List.map_congr_left fun wait _ => ?_)
  by_cases here : wait.name = name
  · simp [here, Wait.poll]
  · simp [here]

private theorem pollEach_cons (promise : Promise α) {name : String} {names : List String} (new : name ∉ names) :
    (promise.pollEach [name]).pollEach names = promise.pollEach (name :: names) := by
  simp only [pollEach, List.map_map]
  refine congrArg (Promise.mk _ _) (List.map_congr_left fun wait _ => ?_)
  by_cases here : wait.name = name
  · simp [here, new]
  · simp [here]

private theorem promise_polls (acts : List (Act α)) {names : List String} (distinct : names.Nodup) :
    (run (acts ++ polls names)).promise = (run acts).promise.pollEach names := by
  induction names generalizing acts with
  | nil => simp [polls, pollEach]
  | cons name names ih =>
    obtain ⟨new, distinct⟩ := List.nodup_cons.mp distinct
    have first : (run (acts ++ [.advance name] ++ [.advance name] ++ [.advance name])).promise =
        (run acts).promise.pollEach [name] := by
      rw [promise_advance, promise_advance, promise_advance, step_thrice]
    have split : acts ++ polls (name :: names) =
        (acts ++ [.advance name] ++ [.advance name] ++ [.advance name]) ++ polls names := by simp [polls]
    rw [split, ih _ distinct, first, pollEach_cons _ new]

private theorem pollEach_all (promise : Promise α) :
    promise.pollEach (promise.waits.map (·.name)) = promise.settle := by
  refine congrArg (Promise.mk _ _) (List.map_congr_left fun wait member => if_pos ?_)
  exact List.mem_map_of_mem member

private theorem pollEach_named (promise : Promise α) (names : List String) (wait : Wait α) :
    (if wait.name ∈ names then wait.poll promise.value? promise.clock else wait).name = wait.name := by
  split
  · exact Wait.poll_name ..
  · rfl

private theorem wait?_pollEach (promise : Promise α) (name : String) :
    (promise.pollEach [name]).wait? name = (promise.wait? name).map (·.poll promise.value? promise.clock) := by
  refine (find?_map_named _ (pollEach_named promise [name]) name).trans ?_
  cases found : promise.wait? name with
  | none => rw [wait?] at found; rw [found]; rfl
  | some wait =>
    have named := name_of_wait? found
    rw [wait?] at found
    simp [found, named]

private theorem drop_pollEach (promise : Promise α) (name : String) :
    (promise.pollEach [name]).drop name = promise.drop name := by
  refine congrArg (Promise.mk _ _) ((filter_map_named _ (pollEach_named promise [name]) name).trans ?_)
  have unchanged : ∀ wait ∈ promise.waits.filter (·.name ≠ name),
      (if wait.name ∈ [name] then wait.poll promise.value? promise.clock else wait) = wait := by
    intro wait member
    have different : wait.name ≠ name := by simpa using (List.mem_filter.mp member).2
    exact if_neg (by simpa using different)
  rw [List.map_congr_left unchanged, List.map_id']

section Acts

variable (acts : List (Act α))

private theorem exists_settle : ∃ more, Idle more ∧ (run (acts ++ more)).promise = (run acts).promise.settle :=
  ⟨_, idle_polls _, by rw [promise_polls _ (kept_run acts).distinct, pollEach_all]⟩

/-- Everybody looks just before the time that is reached. -/
private theorem exists_elapse (clock : Nat) :
    ∃ more, Idle more ∧ (run (acts ++ more)).promise = (run acts).promise.elapse clock := by
  by_cases later : (run acts).promise.clock < clock
  · let soon := [Act.pass (α := α) (clock - 1 - (run acts).promise.clock)]
    have reached : (run acts).promise.clock + (clock - 1 - (run acts).promise.clock) = clock - 1 := by omega
    have before : (run (acts ++ soon)).promise = { (run acts).promise with clock := clock - 1 } := by
      simp only [soon, run_concat, Act.apply, reached]
    obtain ⟨looks, idle, polled⟩ := exists_settle (acts ++ soon)
    rw [before] at polled
    refine ⟨soon ++ looks ++ [.pass 1], ((idle_pass _).append idle).append (idle_pass 1), ?_⟩
    have last : clock - 1 + 1 = max (run acts).promise.clock clock := by omega
    rw [← List.append_assoc, ← List.append_assoc, run_concat, Act.apply, polled]
    simp only [Promise.settle, Promise.elapse, last, if_pos later]
  · refine ⟨[], fun _ member => absurd member List.not_mem_nil, ?_⟩
    rw [List.append_nil, elapse_of_le (Nat.not_lt.mp later)]

private theorem exists_set (value : α) : ∃ more, (run (acts ++ more)).promise = ((run acts).promise.set value).2 := by
  cases present : (run acts).promise.value? with
  | some other => exact ⟨[], by rw [List.append_nil, set_of_some present]⟩
  | none =>
    have set : (run (acts ++ [.set value])).promise = { (run acts).promise with value? := some value } := by
      simp [run_concat, Act.apply, Promise.set, present]
    obtain ⟨looks, _, polled⟩ := exists_settle (acts ++ [.set value])
    refine ⟨[.set value] ++ looks, ?_⟩
    rw [← List.append_assoc, polled, set, Promise.set, present]
    rfl

private theorem exists_start {name : String} (deadline : Option Nat)
    (fresh : (run acts).promise.wait? name = none) : ∃ more, Idle more ∧
      (run (acts ++ .start name deadline :: more)).promise = (run acts).promise.start name deadline := by
  refine ⟨polls [name], idle_polls _, ?_⟩
  have started : (run (acts ++ [.start name deadline])).promise =
      { (run acts).promise with waits := (run acts).promise.waits ++ [⟨name, deadline, .started⟩] } := by
    rw [run_concat, Act.apply, drop_fresh fresh]
  have others : ∀ other ∈ (run acts).promise.waits, (if other.name ∈ [name] then
      other.poll (run acts).promise.value? (run acts).promise.clock else other) = other := by
    intro other member
    exact if_neg (by simpa using List.find?_eq_none.mp fresh other member)
  rw [List.append_cons, promise_polls _ (List.nodup_singleton name), started]
  simp only [pollEach, Promise.start, List.map_append, List.map_congr_left others, List.map_id', List.map_cons,
    List.map_nil]
  rw [if_pos (List.mem_singleton.mpr rfl)]

/-! ### Waits with nobody in between -/

theorem await_eq_none_iff {promise : Promise α} {deadline : Option Nat} :
    (promise.await deadline).1 = none ↔ promise.value? = none ∧ deadline = none := by
  unfold await
  split <;> simp_all

private theorem pending_settle {promise : Promise α} {name : String} {wait : Wait α}
    (found : promise.settle.wait? name = some wait) (pending : wait.outcome? = none) :
    promise.value? = none ∧ wait.isDue promise.clock = false := by
  rw [wait?_settle] at found
  obtain ⟨before, _, rfl⟩ := Option.map_eq_some_iff.mp found
  cases ended : before.outcome? with
  | some outcome => rw [Wait.poll_of_ended _ _ ended, ended] at pending; cases pending
  | none =>
    cases value : promise.value? with
    | some value => rw [value, Wait.outcome?_poll_some _ _ ended] at pending; cases pending
    | none =>
      rw [value, Wait.outcome?_poll_none _ ended] at pending
      refine ⟨rfl, ?_⟩
      split at pending
      · cases pending
      · next notDue => simpa [Wait.isDue] using notDue

private theorem outcome?_at_deadline {promise : Promise α} {name : String} {wait : Wait α} {due : Nat}
    (unset : promise.value? = none) (found : promise.wait? name = some wait) (pending : wait.outcome? = none)
    (deadline : wait.deadline = some due) (later : promise.clock < due) :
    ∃ late, (promise.elapse due).wait? name = some late ∧
      (late.poll none due).outcome? = some (.error .deadlineExceeded) := by
  refine ⟨wait.poll none (due - 1), by rw [wait?_elapse_of_lt later, found, unset]; rfl, ?_⟩
  have still : (wait.poll none (due - 1)).outcome? = none := by
    rw [Wait.outcome?_poll_none _ pending, if_neg]
    simp only [Wait.isDue, deadline, Option.any_some, decide_eq_true_eq]
    omega
  rw [Wait.outcome?_poll_none _ still, if_pos]
  simp [Wait.isDue, deadline]

theorem join_eq (promise : Promise α) (name : String) :
    (promise.join name).1 = ((promise.join name).2.wait? name).bind (·.outcome?) := by
  unfold join
  dsimp only
  cases found : promise.settle.wait? name with
  | none => simp only [found]; rfl
  | some wait =>
    cases ended : wait.outcome? with
    | some outcome => simp only [found, ended, Option.bind_some]
    | none =>
      cases deadline : wait.deadline with
      | none => simp only [ended, deadline, found, Option.bind_some]
      | some due =>
        obtain ⟨unset, notDue⟩ := pending_settle found ended
        have later : promise.settle.clock < due := by
          simpa [Wait.isDue, deadline, Promise.settle] using notDue
        have settled : promise.settle.value? = none := unset
        obtain ⟨late, found, passed⟩ := outcome?_at_deadline settled found ended deadline later
        have value : (promise.settle.elapse due).value? = none := unset
        have clock : (promise.settle.elapse due).clock = due := Nat.max_eq_right (Nat.le_of_lt later)
        simp only [ended, deadline, wait?_settle (promise.settle.elapse due), found, value, clock, Option.map_some,
          Option.bind_some, passed]

theorem join_eq_none_iff {promise : Promise α} {name : String} : (promise.join name).1 = none ↔
    ∀ wait, promise.wait? name = some wait →
      wait.outcome? = none ∧ wait.deadline = none ∧ promise.value? = none := by
  unfold join
  dsimp only
  rw [wait?_settle]
  cases promise.wait? name with
  | none => simp
  | some wait =>
    simp only [Option.map_some, Wait.poll_deadline, Option.some.injEq, forall_eq']
    cases ended : wait.outcome? with
    | some outcome => simp [Wait.poll_of_ended _ _ ended, ended]
    | none =>
      cases value : promise.value? with
      | some present => simp [Wait.outcome?_poll_some present _ ended]
      | none =>
        rw [Wait.outcome?_poll_none _ ended]
        cases deadline : wait.deadline with
        | none => simp [Wait.isDue, deadline]
        | some due => cases wait.isDue promise.clock <;> simp

theorem exists_join (name : String) : ∃ more, Idle more ∧
    (run (acts ++ more)).promise = ((run acts).promise.join name).2 := by
  obtain ⟨looks, idle, settled⟩ := exists_settle acts
  unfold join
  rw [← settled]
  dsimp only
  split
  · exact ⟨looks, idle, rfl⟩
  · next wait _ =>
    split
    · exact ⟨looks, idle, rfl⟩
    · next due _ _ =>
      obtain ⟨passes, alsoIdle, elapsed⟩ := exists_elapse (acts ++ looks) due
      obtain ⟨again, stillIdle, last⟩ := exists_settle (acts ++ looks ++ passes)
      refine ⟨looks ++ passes ++ again, (idle.append alsoIdle).append stillIdle, ?_⟩
      rw [← List.append_assoc, ← List.append_assoc, last, elapsed]
    · exact ⟨looks, idle, rfl⟩

theorem exists_await {name : String} (deadline : Option Nat) (fresh : (run acts).promise.wait? name = none) :
    ∃ more, Idle more ∧
      ((run acts).promise.await deadline).1 =
        ((run (acts ++ .start name deadline :: more)).promise.wait? name).bind (·.outcome?) ∧
      ((run acts).promise.await deadline).2 = (run (acts ++ .start name deadline :: more)).promise.drop name := by
  obtain ⟨more, idle, started⟩ := exists_start acts deadline fresh
  have found := wait?_start deadline fresh
  have dropped := drop_start_self deadline fresh
  rw [← started] at found dropped
  generalize (run acts).promise = promise at fresh found dropped
  unfold await
  cases value : promise.value? with
  | some present =>
    refine ⟨more, idle, ?_, dropped.symm⟩
    rw [found, value, Option.bind_some, Wait.outcome?_poll_some present _ rfl]
  | none =>
    rw [value] at found
    have outcome : ((⟨name, deadline, .started⟩ : Wait α).poll none promise.clock).outcome? = _ :=
      Wait.outcome?_poll_none promise.clock rfl
    cases deadline with
    | none =>
      refine ⟨more, idle, ?_, dropped.symm⟩
      rw [found, Option.bind_some, outcome]
      rfl
    | some due =>
      by_cases later : promise.clock < due
      · rw [if_neg (by simpa [Wait.isDue] using later)] at outcome
        obtain ⟨passes, alsoIdle, elapsed⟩ := exists_elapse (acts ++ .start name (some due) :: more) due
        have same : acts ++ .start name (some due) :: (more ++ passes ++ polls [name]) =
            acts ++ .start name (some due) :: more ++ passes ++ polls [name] := by simp
        have clock : (run (acts ++ .start name (some due) :: more)).promise.clock = promise.clock :=
          (congrArg Promise.clock dropped :)
        have unset : (run (acts ++ .start name (some due) :: more)).promise.value? = none :=
          (congrArg Promise.value? dropped :).trans value
        obtain ⟨late, passed, ended⟩ := outcome?_at_deadline unset found outcome (Wait.poll_deadline ..) (clock ▸ later)
        have last : (run (acts ++ .start name (some due) :: more ++ passes)).promise.clock = due := by
          rw [elapsed]
          exact Nat.max_eq_right (by omega)
        have still : (run (acts ++ .start name (some due) :: more ++ passes)).promise.value? = none := by
          rw [elapsed]
          exact unset
        refine ⟨more ++ passes ++ polls [name], (idle.append alsoIdle).append (idle_polls _), ?_⟩
        rw [same, promise_polls _ (List.nodup_singleton name), drop_pollEach, wait?_pollEach, last, still, elapsed,
          passed, drop_elapse, dropped]
        exact ⟨ended.symm, rfl⟩
      · refine ⟨more, idle, ?_, (elapse_of_le (Nat.not_lt.mp later)).trans dropped.symm⟩
        rw [found, Option.bind_some, outcome, if_pos]
        simpa [Wait.isDue] using later

end Acts

theorem exists_run_of_operates (acts : List (Act α)) {next : Promise α}
    (operates : Operates (run acts).promise next) : ∃ more, (run (acts ++ more)).promise = next := by
  cases operates with
  | set value => exact exists_set acts value
  | start name deadline fresh =>
    obtain ⟨more, _, reached⟩ := exists_start acts deadline fresh
    exact ⟨_, reached⟩
  | settle =>
    obtain ⟨more, _, reached⟩ := exists_settle acts
    exact ⟨more, reached⟩
  | elapse clock =>
    obtain ⟨more, _, reached⟩ := exists_elapse acts clock
    exact ⟨more, reached⟩
  | drop name => exact ⟨[.drop name], by rw [run_concat]; rfl⟩
  | await deadline =>
    obtain ⟨more, _, reached⟩ := exists_elapse acts (deadline.getD 0)
    unfold await
    split
    · exact ⟨[], by rw [List.append_nil]⟩
    · exact ⟨more, reached⟩
    · exact ⟨[], by rw [List.append_nil]⟩
  | join name =>
    obtain ⟨more, _, reached⟩ := exists_join acts name
    exact ⟨more, reached⟩

end Promise

end ModelVault
