import Mathlib.Data.List.Induction
import Mathlib.Data.List.Nodup
import Mathlib.Logic.Function.Iterate
import ModelVault.Proofs.Service.Polling

/-!
Promises under every order of steps. A set, one step of one wait, time that passes, a wait that begins or is
given up: each is one act, and any number of them may come in any order. A wait whose look was in vain sleeps
until the value is set or its deadline passes; that none sleeps through either is proved, not assumed.
-/

namespace ModelVault

namespace Wait

variable {α : Type}

/-- The wait watches, and there is neither a value nor a deadline that has passed. -/
def looksInVain (value? : Option α) (clock : Nat) (wait : Wait α) : Bool :=
  match wait.phase, value? with
  | .watching, none => !wait.isDue clock
  | _, _ => false

theorem looksInVain_iff {value? : Option α} {clock : Nat} {wait : Wait α} :
    wait.looksInVain value? clock = true ↔
      wait.phase = .watching ∧ value? = none ∧ wait.isDue clock = false := by
  unfold looksInVain
  split
  · next watching => simp [watching]
  · next other =>
    constructor
    · exact nofun
    · rintro ⟨watching, unset, _⟩
      exact absurd unset (other watching)

theorem advance_of_looksInVain {value? : Option α} {clock : Nat} {wait : Wait α}
    (vain : wait.looksInVain value? clock = true) : wait.advance value? clock = wait := by
  obtain ⟨watching, rfl, notDue⟩ := looksInVain_iff.mp vain
  simp [advance, watching, notDue]

theorem ended_of_advance {value? : Option α} {clock : Nat} {wait : Wait α} {outcome : Except PromiseError α}
    (ended : (wait.advance value? clock).phase = .ended outcome) :
    wait.phase = .ended outcome ∨ (∃ value, value? = some value ∧ outcome = .ok value) ∨
      (value? = none ∧ wait.isDue clock = true ∧ outcome = .error .deadlineExceeded) := by
  unfold advance at ended
  split at ended
  · split at ended
    · next value =>
      cases ended
      exact .inr (.inl ⟨value, rfl, rfl⟩)
    · cases ended
  · cases ended
  · next watching =>
    split at ended
    · next value =>
      cases ended
      exact .inr (.inl ⟨value, rfl, rfl⟩)
    · split at ended
      · next due =>
        cases ended
        exact .inr (.inr ⟨rfl, due, rfl⟩)
      · rw [watching] at ended
        cases ended
  · next same => exact .inl ended

theorem advance_some (value : α) (clock : Nat) (wait : Wait α) :
    wait.advance (some value) clock = wait.advance (some value) 0 := by
  unfold advance
  split <;> rfl

private theorem iterate_ended {value : α} {wait : Wait α} (ended : wait.outcome? = some (.ok value)) (count : Nat) :
    ((Wait.advance (some value) 0)^[count] wait).outcome? = some (.ok value) := by
  have fixed : wait.advance (some value) 0 = wait := by
    unfold outcome? at ended
    split at ended
    · next phase => rw [advance, phase]
    · cases ended
  rw [Function.iterate_fixed fixed]
  exact ended

/-- A wait that has not looked yet ends with its first step once there is a value. -/
theorem outcome?_of_started {value : α} {wait : Wait α} (started : wait.phase = .started) {count : Nat}
    (enough : 1 ≤ count) : ((Wait.advance (some value) 0)^[count] wait).outcome? = some (.ok value) := by
  obtain ⟨more, rfl⟩ := Nat.exists_eq_add_of_le' enough
  have first : (wait.advance (some value) 0).outcome? = some (.ok value) := by simp [advance, started, outcome?]
  exact iterate_ended first more

/-- A wait that has not ended does so within two steps once there is a value, also one that has looked in vain
and does not watch yet. -/
theorem outcome?_of_pending {value : α} {wait : Wait α} (pending : wait.outcome? = none) {count : Nat}
    (enough : 2 ≤ count) : ((Wait.advance (some value) 0)^[count] wait).outcome? = some (.ok value) := by
  obtain ⟨more, rfl⟩ := Nat.exists_eq_add_of_le' enough
  have second : ((wait.advance (some value) 0).advance (some value) 0).outcome? = some (.ok value) := by
    cases phase : wait.phase with
    | started => simp [advance, phase, outcome?]
    | lookedInVain => simp [advance, phase, outcome?]
    | watching => simp [advance, phase, outcome?]
    | ended outcome => simp [outcome?, phase] at pending
  exact iterate_ended second more

end Wait

namespace Promise

variable {α : Type}

/-- What may happen next to a promise and those who wait for it. -/
inductive Act (α : Type) where
  | set (value : α)
  /-- A wait begins, with the deadline that it has; it takes the place of one of its name. -/
  | start (name : String) (deadline : Option Nat)
  /-- A wait takes its next step, unless it sleeps. -/
  | advance (name : String)
  | pass (milliseconds : Nat)
  /-- A wait is given up. -/
  | drop (name : String)

/-- A promise, and the names of the waits that sleep. -/
structure Waiting (α : Type) where
  promise : Promise α
  asleep : List String

def step (name : String) (promise : Promise α) : Promise α :=
  { promise with waits := promise.waits.map fun wait =>
      if wait.name = name then wait.advance promise.value? promise.clock else wait }

private theorem step_named (promise : Promise α) (other : String) (wait : Wait α) :
    (if wait.name = other then wait.advance promise.value? promise.clock else wait).name = wait.name := by
  split
  · exact Wait.advance_name ..
  · rfl

def isDue (promise : Promise α) (clock : Nat) (name : String) : Bool :=
  promise.waits.any fun wait => wait.name = name && wait.isDue clock

/-- The wait of this name looks in vain. -/
def looksInVain (promise : Promise α) (name : String) : Bool :=
  promise.waits.any fun wait => wait.name = name && wait.looksInVain promise.value? promise.clock

/-- What an act makes of a promise, and whom it wakes or puts to sleep. The first set wakes everybody, and the
time wakes those who are due. -/
def Act.apply (act : Act α) (state : Waiting α) : Waiting α :=
  let promise := state.promise
  match act with
  | .set value =>
    match promise.set value with
    | (.ok (), after) => ⟨{ promise with value? := after.value? }, []⟩
    | (.error _, _) => state
  | .start name deadline =>
    let others := (promise.drop name).waits
    ⟨{ promise with waits := others ++ [⟨name, deadline, .started⟩] }, state.asleep.filter (· ≠ name)⟩
  | .advance name =>
    if name ∈ state.asleep then state
    else ⟨promise.step name, if promise.looksInVain name then name :: state.asleep else state.asleep⟩
  | .pass milliseconds =>
    let clock := promise.clock + milliseconds
    ⟨{ promise with clock := clock }, state.asleep.filter (!promise.isDue clock ·)⟩
  | .drop name => ⟨promise.drop name, state.asleep.filter (· ≠ name)⟩

def run (acts : List (Act α)) : Waiting α :=
  acts.foldl (fun state act => act.apply state) ⟨.new, []⟩

def Act.value? : Act α → Option α
  | .set value => some value
  | _ => none

def firstSet? (acts : List (Act α)) : Option α :=
  acts.findSome? Act.value?

/-- The act is a step of the wait of this name, or its beginning or end. -/
def Act.concerns (name : String) : Act α → Bool
  | .start other _ | .advance other | .drop other => other = name
  | _ => false

def Act.advances (name : String) : Act α → Bool
  | .advance other => other = name
  | _ => false

/-- No act gives up the wait of this name or puts another in its place. -/
def Spared (name : String) (acts : List (Act α)) : Prop :=
  ∀ act ∈ acts, act.concerns name = true → act.advances name = true

/-- What is left when the wait of a name is taken away. -/
def Waiting.without (name : String) (state : Waiting α) : Waiting α :=
  ⟨state.promise.drop name, state.asleep.filter (· ≠ name)⟩

theorem run_append (acts more : List (Act α)) :
    run (acts ++ more) = more.foldl (fun state act => act.apply state) (run acts) :=
  List.foldl_append

theorem run_concat (acts : List (Act α)) (act : Act α) : run (acts ++ [act]) = act.apply (run acts) :=
  run_append acts [act]

theorem firstSet?_append (acts more : List (Act α)) :
    firstSet? (acts ++ more) = (firstSet? acts).or (firstSet? more) :=
  List.findSome?_append

/-- The only ways in which a wait comes to its outcome: with the first value that was set, or by a step that found
none when the deadline had passed. -/
inductive Earned (acts : List (Act α)) (name : String) (deadline : Option Nat) : Except PromiseError α → Prop where
  | value (value : α) (first : firstSet? acts = some value) : Earned acts name deadline (.ok value)
  | late (before rest : List (Act α)) (divided : acts = before ++ .advance name :: rest)
    (unset : firstSet? before = none) (passed : ∃ due, deadline = some due ∧ due ≤ (run before).promise.clock) :
    Earned acts name deadline (.error .deadlineExceeded)

theorem Earned.append {acts : List (Act α)} {name : String} {deadline : Option Nat} {outcome : Except PromiseError α}
    (earned : Earned acts name deadline outcome) (more : List (Act α)) :
    Earned (acts ++ more) name deadline outcome := by
  cases earned with
  | value value first => exact .value value (by rw [firstSet?_append, first, Option.some_or])
  | late before rest divided unset passed => exact .late before (rest ++ more) (by simp [divided]) unset passed

/-- What holds after any acts: the value is the first that was set, outcomes are earned, who sleeps would look
in vain, and names are those of one wait each. -/
structure Kept (acts : List (Act α)) (state : Waiting α) : Prop where
  value : state.promise.value? = firstSet? acts
  ended : ∀ wait ∈ state.promise.waits, ∀ outcome, wait.phase = .ended outcome →
    Earned acts wait.name wait.deadline outcome
  asleep : ∀ wait ∈ state.promise.waits, wait.name ∈ state.asleep →
    wait.looksInVain state.promise.value? state.promise.clock = true
  roused : state.promise.value? ≠ none → state.asleep = []
  distinct : (state.promise.waits.map (·.name)).Nodup

namespace Kept

variable {acts : List (Act α)} {state : Waiting α} (kept : Kept acts state)
include kept

private theorem set (value : α) : Kept (acts ++ [.set value]) ((Act.set value).apply state) := by
  have first : firstSet? (acts ++ [.set value]) = state.promise.value?.or (some value) := by
    rw [firstSet?_append, kept.value]
    rfl
  have earned := fun wait member outcome ended => (kept.ended wait member outcome ended).append [.set value]
  simp only [Act.apply, Promise.set]
  cases present : state.promise.value? with
  | some other =>
    rw [present] at first
    exact { kept with value := present.trans first.symm, ended := earned }
  | none =>
    rw [present] at first
    exact {
      value := first.symm
      ended := earned
      asleep := fun _ _ asleep => absurd asleep List.not_mem_nil
      roused := fun _ => rfl
      distinct := kept.distinct }

private theorem start (name : String) (deadline : Option Nat) :
    Kept (acts ++ [.start name deadline]) ((Act.start name deadline).apply state) where
  value := by
    rw [firstSet?_append, ← kept.value]
    exact (Option.or_none ..).symm
  ended wait member outcome ended := by
    rcases List.mem_append.mp member with other | new
    · exact (kept.ended wait (List.mem_of_mem_filter other) outcome ended).append _
    · rw [List.mem_singleton.mp new] at ended
      cases ended
  asleep wait member asleep := by
    obtain ⟨asleep, different⟩ := List.mem_filter.mp asleep
    rcases List.mem_append.mp member with other | new
    · exact kept.asleep wait (List.mem_of_mem_filter other) asleep
    · rw [List.mem_singleton.mp new] at different
      simp at different
  roused set := by
    simp only [Act.apply, kept.roused set, List.filter_nil]
  distinct := by
    simp only [Act.apply, drop, List.map_append, List.map_cons, List.map_nil]
    refine List.Nodup.append ((List.filter_sublist.map _).nodup kept.distinct) (List.nodup_singleton name) ?_
    simp

private theorem advance (reached : state = run acts) (name : String) :
    Kept (acts ++ [.advance name]) ((Act.advance name).apply state) := by
  have value : state.promise.value? = firstSet? (acts ++ [.advance name]) := by
    rw [firstSet?_append, ← kept.value]
    exact (Option.or_none ..).symm
  have earned := fun wait member outcome ended => (kept.ended wait member outcome ended).append [.advance name]
  simp only [Act.apply]
  split
  · exact { kept with value := value, ended := earned }
  · next awake =>
    refine ⟨value, ?_, ?_, ?_, ?_⟩
    · intro wait member outcome ended
      obtain ⟨before, present, rfl⟩ := List.mem_map.mp member
      split at ended
      · next here =>
        rw [if_pos here, Wait.advance_name, Wait.advance_deadline]
        rcases Wait.ended_of_advance ended with same | ⟨found, isSet, rfl⟩ | ⟨unset, due, rfl⟩
        · exact earned before present outcome same
        · exact .value found (value.symm.trans isSet)
        · refine .late acts [] (by rw [here]) (kept.value.symm.trans unset) ?_
          rw [← reached]
          simpa [Wait.isDue, Option.any_eq_true] using due
      · next other =>
        rw [if_neg other]
        exact earned before present outcome ended
    · intro wait member asleep
      obtain ⟨before, present, rfl⟩ := List.mem_map.mp member
      by_cases here : before.name = name
      · simp only [here, if_true, Wait.advance_name] at asleep ⊢
        have vain : state.promise.looksInVain name = true := by
          by_contra some
          rw [if_neg some] at asleep
          exact awake asleep
        obtain ⟨other, also, same⟩ := List.any_eq_true.mp vain
        obtain ⟨sameName, vain⟩ := (Bool.and_eq_true _ _).mp same
        have only : other = before :=
          List.inj_on_of_nodup_map kept.distinct also present ((of_decide_eq_true sameName).trans here.symm)
        rw [only] at vain
        rw [Wait.advance_of_looksInVain vain]
        exact vain
      · simp only [if_neg here] at asleep ⊢
        refine kept.asleep before present ?_
        split at asleep
        · exact (List.mem_cons.mp asleep).resolve_left here
        · exact asleep
    · intro set
      have nobody : state.promise.looksInVain name = false := by
        refine List.any_eq_false.mpr fun wait _ => ?_
        rw [Bool.and_eq_true, Wait.looksInVain_iff]
        exact fun both => set both.2.2.1
      simp only [nobody, Bool.false_eq_true, if_false]
      exact kept.roused set
    · have names : (state.promise.step name).waits.map (·.name) = state.promise.waits.map (·.name) := by
        rw [step, List.map_map]
        exact List.map_congr_left fun wait _ => step_named state.promise name wait
      rw [names]
      exact kept.distinct

private theorem pass (milliseconds : Nat) :
    Kept (acts ++ [.pass milliseconds]) ((Act.pass milliseconds).apply state) where
  value := by
    rw [firstSet?_append, ← kept.value]
    exact (Option.or_none ..).symm
  ended wait member outcome ended := (kept.ended wait member outcome ended).append _
  asleep wait member asleep := by
    obtain ⟨asleep, notDue⟩ := List.mem_filter.mp asleep
    obtain ⟨watching, unset, _⟩ := Wait.looksInVain_iff.mp (kept.asleep wait member asleep)
    refine Wait.looksInVain_iff.mpr ⟨watching, unset, ?_⟩
    simp only [Bool.not_eq_true', isDue, List.any_eq_false] at notDue
    have notDue := notDue wait member
    simp only [decide_true, Bool.true_and, Bool.not_eq_true] at notDue
    exact notDue
  roused set := by
    simp only [Act.apply, kept.roused set, List.filter_nil]
  distinct := kept.distinct

private theorem drop (name : String) : Kept (acts ++ [.drop name]) ((Act.drop name).apply state) where
  value := by
    rw [firstSet?_append, ← kept.value]
    exact (Option.or_none ..).symm
  ended wait member outcome ended := (kept.ended wait (List.mem_of_mem_filter member) outcome ended).append _
  asleep wait member asleep := kept.asleep wait (List.mem_of_mem_filter member) (List.mem_of_mem_filter asleep)
  roused set := by
    simp only [Act.apply, kept.roused set, List.filter_nil]
  distinct := (List.filter_sublist.map _).nodup kept.distinct

end Kept

/-- By induction on the acts, which grow at their end. -/
theorem kept_run (acts : List (Act α)) : Kept acts (run acts) := by
  induction acts using List.reverseRecOn with
  | nil => exact ⟨rfl, nofun, nofun, fun set => absurd rfl set, List.nodup_nil⟩
  | append_singleton acts act ih =>
    rw [run_concat]
    cases act with
    | set value => exact ih.set value
    | start name deadline => exact ih.start name deadline
    | advance name => exact ih.advance rfl name
    | pass milliseconds => exact ih.pass milliseconds
    | drop name => exact ih.drop name

/-! ### What a set reaches -/

private theorem wait?_step (promise : Promise α) (other name : String) :
    (promise.step other).wait? name =
      if other = name then (promise.wait? name).map (·.advance promise.value? promise.clock)
      else promise.wait? name := by
  rw [wait?, step, find?_map_named _ (step_named promise other), wait?]
  cases found : promise.waits.find? (·.name = name) with
  | none => split <;> rfl
  | some wait =>
    have named : wait.name = name := by simpa using List.find?_some found
    simp only [Option.map_some, named, eq_comm]
    split <;> rfl

private theorem wait?_apply {state : Waiting α} {value : α} (set : state.promise.value? = some value)
    (roused : state.asleep = []) {act : Act α} {name : String}
    (spared : act.concerns name = true → act.advances name = true) :
    (act.apply state).promise.wait? name =
      if act.advances name then (state.promise.wait? name).map (Wait.advance (some value) 0)
      else state.promise.wait? name := by
  cases act with
  | set other => simp [Act.apply, Promise.set, set, Act.advances]
  | start other deadline =>
    have different : other ≠ name := fun same => by simp [Act.concerns, Act.advances, same] at spared
    have others : (state.promise.drop other).wait? name = state.promise.wait? name := wait?_drop (Ne.symm different)
    simp only [wait?] at others
    simp [Act.apply, Act.advances, wait?, List.find?_append, others, different]
  | advance other =>
    have brought : Wait.advance (some value) state.promise.clock = Wait.advance (some value) 0 := by
      funext wait
      exact Wait.advance_some value state.promise.clock wait
    simp only [Act.apply, roused, List.not_mem_nil, if_false, wait?_step, set, brought, Act.advances,
      decide_eq_true_eq]
  | pass milliseconds => rfl
  | drop other =>
    have different : other ≠ name := fun same => by simp [Act.concerns, Act.advances, same] at spared
    exact wait?_drop (Ne.symm different)

/-- By induction on the acts after the set: a wait that is spared has come as far as its own steps bring it. -/
theorem wait?_run {acts more : List (Act α)} {value : α} {name : String} (set : firstSet? acts = some value)
    (spared : Spared name more) : (run (acts ++ more)).promise.wait? name =
      ((run acts).promise.wait? name).map (Wait.advance (some value) 0)^[more.countP (Act.advances name)] := by
  induction more using List.reverseRecOn with
  | nil => simp
  | append_singleton more act ih =>
    have kept := kept_run (acts ++ more)
    have present : (run (acts ++ more)).promise.value? = some value := by
      rw [kept.value, firstSet?_append, set, Option.some_or]
    have before := ih fun act member => spared act (List.mem_append_left _ member)
    have last := wait?_apply present (kept.roused (by simp [present])) (spared act (by simp))
    rw [← List.append_assoc, run_concat, last, before, List.countP_append, List.countP_singleton]
    split
    · rw [Option.map_map, Function.iterate_succ']
    · rfl

/-! ### What others see -/

private theorem any_filter_names {promise : Promise α} {name other : String} (different : other ≠ name)
    (asked : Wait α → Bool) :
    ((promise.waits.filter (·.name ≠ name)).any fun wait => wait.name = other && asked wait) =
      promise.waits.any fun wait => wait.name = other && asked wait := by
  rw [List.any_filter]
  congr 1
  funext wait
  by_cases here : wait.name = other
  · simp [here, different]
  · simp [here]

private theorem drop_step (promise : Promise α) (name other : String) :
    (promise.step other).drop name =
      if other = name then promise.drop name else (promise.drop name).step other := by
  simp only [drop, step, filter_map_named _ (step_named promise other)]
  split
  · next same =>
    have unchanged : ∀ wait ∈ promise.waits.filter (·.name ≠ name), (if wait.name = other then
        wait.advance promise.value? promise.clock else wait) = wait := by
      intro wait member
      have different : wait.name ≠ name := by simpa using (List.mem_filter.mp member).2
      rw [if_neg (same ▸ different)]
    rw [List.map_congr_left unchanged, List.map_id']
  · rfl

/-- What a wait does, others do not see; and without it, all others do the same. -/
private theorem apply_without (act : Act α) (state : Waiting α) (name : String) :
    (act.apply state).without name =
      if act.concerns name then state.without name else act.apply (state.without name) := by
  cases act with
  | set value =>
    simp only [Act.apply, Promise.set, Act.concerns, Bool.false_eq_true, if_false]
    cases present : state.promise.value? with
    | some other => simp [Waiting.without, drop, present]
    | none => simp [Waiting.without, drop, present]
  | start other deadline =>
    by_cases same : other = name
    · subst same
      simp [Act.apply, Act.concerns, Waiting.without, drop, List.filter_append, List.filter_filter]
    · simp [Act.apply, Act.concerns, Waiting.without, drop, List.filter_append, List.filter_filter, same,
        Bool.and_comm]
  | advance other =>
    by_cases same : other = name
    · subst same
      simp only [Act.apply, Act.concerns, decide_true, if_true]
      split
      · rfl
      · simp only [Waiting.without, drop_step, if_true]
        split
        · simp
        · rfl
    · have listed : other ∈ state.asleep.filter (· ≠ name) ↔ other ∈ state.asleep := by
        simp [same]
      have vain : (state.promise.drop name).looksInVain other = state.promise.looksInVain other :=
        any_filter_names same fun wait => wait.looksInVain state.promise.value? state.promise.clock
      simp only [Act.apply, Act.concerns, same, decide_false, Bool.false_eq_true, if_false, Waiting.without, listed,
        vain]
      split
      · rfl
      · rw [drop_step, if_neg same]
        split
        · rw [List.filter_cons_of_pos (by simpa using same)]
        · rfl
  | pass milliseconds =>
    let clock := state.promise.clock + milliseconds
    have due : ∀ other ∈ state.asleep.filter (· ≠ name),
        (!(state.promise.drop name).isDue clock other) = !state.promise.isDue clock other := by
      intro other member
      have different : other ≠ name := by simpa using (List.mem_filter.mp member).2
      exact congrArg (! ·) (any_filter_names different fun wait => wait.isDue clock)
    have asleep : (state.asleep.filter (!state.promise.isDue clock ·)).filter (· ≠ name) =
        (state.asleep.filter (· ≠ name)).filter (!(state.promise.drop name).isDue clock ·) := by
      rw [List.filter_congr due, List.filter_filter, List.filter_filter]
      simp only [Bool.and_comm]
    simp only [Act.apply, Act.concerns, Bool.false_eq_true, if_false]
    exact congrArg (Waiting.mk _) asleep
  | drop other =>
    by_cases same : other = name
    · subst same
      simp [Act.apply, Act.concerns, Waiting.without, drop, List.filter_filter]
    · simp [Act.apply, Act.concerns, Waiting.without, drop, List.filter_filter, same, Bool.and_comm]

/-- By induction on the acts: without those of one wait, the others come to the same. -/
theorem run_filter (acts : List (Act α)) (name : String) :
    run (acts.filter fun act => !act.concerns name) = (run acts).without name := by
  induction acts using List.reverseRecOn with
  | nil => rfl
  | append_singleton acts act ih =>
    rw [run_concat, apply_without, List.filter_append]
    cases concerns : act.concerns name with
    | true => simpa [concerns] using ih
    | false => simp [concerns, run_concat, ih]

end Promise

end ModelVault
