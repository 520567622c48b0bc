import Mathlib.Data.List.Find
import ModelVault.Service.Promise

/-!
Promises and the wait of one name: what each step makes of it, and that every step comes to the same, when the
wait is taken away before it or after it.
-/

namespace ModelVault

namespace Wait

variable {α : Type} {wait : Wait α}

@[simp] theorem advance_name (value? : Option α) (clock : Nat) (wait : Wait α) :
    (wait.advance value? clock).name = wait.name := by
  unfold advance
  split
  · split <;> rfl
  · rfl
  · split
    · rfl
    · split <;> rfl
  · rfl

@[simp] theorem advance_deadline (value? : Option α) (clock : Nat) (wait : Wait α) :
    (wait.advance value? clock).deadline = wait.deadline := by
  unfold advance
  split
  · split <;> rfl
  · rfl
  · split
    · rfl
    · split <;> rfl
  · rfl

@[simp] theorem poll_name (value? : Option α) (clock : Nat) (wait : Wait α) :
    (wait.poll value? clock).name = wait.name := by
  simp only [poll, advance_name]

@[simp] theorem poll_deadline (value? : Option α) (clock : Nat) (wait : Wait α) :
    (wait.poll value? clock).deadline = wait.deadline := by
  simp only [poll, advance_deadline]

theorem poll_of_ended (value? : Option α) (clock : Nat) {outcome : Except PromiseError α}
    (ended : wait.outcome? = some outcome) : wait.poll value? clock = wait := by
  have fixed : wait.advance value? clock = wait := by
    unfold outcome? at ended
    split at ended
    · next phase => simp only [advance, phase]
    · cases ended
  rw [poll, fixed, fixed, fixed]

theorem outcome?_poll_some (value : α) (clock : Nat) (pending : wait.outcome? = none) :
    (wait.poll (some value) clock).outcome? = some (.ok value) := by
  cases phase : wait.phase with
  | started => simp [poll, advance, phase, outcome?]
  | lookedInVain => simp [poll, advance, phase, outcome?]
  | watching => simp [poll, advance, phase, outcome?]
  | ended outcome => simp [outcome?, phase] at pending

theorem outcome?_poll_none (clock : Nat) (pending : wait.outcome? = none) :
    (wait.poll none clock).outcome? = if wait.isDue clock then some (.error .deadlineExceeded) else none := by
  cases phase : wait.phase with
  | started => cases due : wait.isDue clock <;> simp_all [poll, advance, isDue, outcome?]
  | lookedInVain => cases due : wait.isDue clock <;> simp_all [poll, advance, isDue, outcome?]
  | watching => cases due : wait.isDue clock <;> simp_all [poll, advance, isDue, outcome?]
  | ended outcome => simp [outcome?, phase] at pending

end Wait

namespace Promise

variable {α : Type} {name other : String} {promise : Promise α}

theorem find?_map_named (waits : List (Wait α)) {change : Wait α → Wait α}
    (named : ∀ wait, (change wait).name = wait.name) (name : String) :
    (waits.map change).find? (·.name = name) = (waits.find? (·.name = name)).map change := by
  rw [List.find?_map]
  congr 2
  funext wait
  simp only [Function.comp_apply, named]

theorem filter_map_named (waits : List (Wait α)) {change : Wait α → Wait α}
    (named : ∀ wait, (change wait).name = wait.name) (name : String) :
    (waits.map change).filter (·.name ≠ name) = (waits.filter (·.name ≠ name)).map change := by
  rw [List.filter_map]
  congr 2
  funext wait
  simp only [Function.comp_apply, named]

/-! ### The wait of a name -/

theorem name_of_wait? {wait : Wait α} (found : promise.wait? name = some wait) : wait.name = name := by
  simpa using List.find?_some found

theorem wait?_settle (promise : Promise α) (name : String) :
    promise.settle.wait? name = (promise.wait? name).map (·.poll promise.value? promise.clock) :=
  find?_map_named _ (fun wait => Wait.poll_name _ _ wait) name

theorem wait?_elapse_of_lt {clock : Nat} (later : promise.clock < clock) (name : String) :
    (promise.elapse clock).wait? name = (promise.wait? name).map (·.poll promise.value? (clock - 1)) := by
  simp only [wait?, elapse, if_pos later]
  exact find?_map_named _ (fun wait => Wait.poll_name _ _ wait) name

theorem elapse_of_le {clock : Nat} (passed : clock ≤ promise.clock) : promise.elapse clock = promise := by
  simp [elapse, Nat.not_lt.mpr passed, Nat.max_eq_left passed]

theorem wait?_set {value : α} (unset : promise.value? = none) (name : String) :
    (promise.set value).2.wait? name = (promise.wait? name).map (·.poll (some value) promise.clock) := by
  rw [Promise.set, unset]
  exact find?_map_named _ (fun wait => Wait.poll_name _ _ wait) name

theorem set_of_some {value other : α} (present : promise.value? = some other) :
    promise.set value = (.error .alreadySet, promise) := by
  rw [Promise.set, present]

theorem wait?_start (deadline : Option Nat) (fresh : promise.wait? name = none) :
    (promise.start name deadline).wait? name =
      some ((⟨name, deadline, .started⟩ : Wait α).poll promise.value? promise.clock) := by
  rw [wait?] at fresh
  simp [wait?, Promise.start, List.find?_append, fresh]

theorem wait?_start_other (different : other ≠ name) (deadline : Option Nat) :
    (promise.start other deadline).wait? name = promise.wait? name := by
  simp [wait?, Promise.start, List.find?_append, different]

theorem wait?_drop (different : other ≠ name) : (promise.drop name).wait? other = promise.wait? other := by
  rw [wait?, drop, List.find?_filter, wait?]
  apply List.find?_congr
  intro wait _
  by_cases here : wait.name = other
  · simp [here, different]
  · simp [here]

theorem wait?_drop_self (promise : Promise α) (name : String) : (promise.drop name).wait? name = none :=
  List.find?_eq_none.mpr fun wait member => by simpa using (List.mem_filter.mp member).2

/-! ### Without the wait of a name -/

theorem drop_fresh (fresh : promise.wait? name = none) : promise.drop name = promise := by
  have all : promise.waits.filter (·.name ≠ name) = promise.waits := by
    refine List.filter_eq_self.mpr fun wait member => ?_
    simpa using List.find?_eq_none.mp fresh wait member
  rw [drop, all]

theorem drop_drop (promise : Promise α) (name other : String) :
    (promise.drop other).drop name = (promise.drop name).drop other := by
  simp only [drop, List.filter_filter, Bool.and_comm]

theorem drop_settle (promise : Promise α) (name : String) :
    promise.settle.drop name = (promise.drop name).settle :=
  congrArg (Promise.mk _ _) (filter_map_named _ (fun wait => Wait.poll_name _ _ wait) name)

theorem drop_elapse (promise : Promise α) (clock : Nat) (name : String) :
    (promise.elapse clock).drop name = (promise.drop name).elapse clock := by
  refine congrArg (Promise.mk _ _) (filter_map_named _ (fun wait => ?_) name)
  split
  · exact Wait.poll_name ..
  · rfl

theorem drop_set (value : α) (promise : Promise α) (name : String) :
    (promise.set value).2.drop name = ((promise.drop name).set value).2 := by
  have same : (promise.drop name).value? = promise.value? := rfl
  rw [Promise.set, Promise.set, same]
  cases promise.value? with
  | some other => rfl
  | none => exact congrArg (Promise.mk _ _) (filter_map_named _ (fun wait => Wait.poll_name _ _ wait) name)

theorem drop_start (different : other ≠ name) (deadline : Option Nat) :
    (promise.start other deadline).drop name = (promise.drop name).start other deadline := by
  simp [drop, Promise.start, List.filter_append, different]

theorem drop_start_self (deadline : Option Nat) (fresh : promise.wait? name = none) :
    (promise.start name deadline).drop name = promise := by
  refine Eq.trans ?_ (drop_fresh fresh)
  simp [drop, Promise.start, List.filter_append]

theorem drop_join (different : other ≠ name) :
    (promise.join other).2.drop name = ((promise.drop name).join other).2 := by
  rw [join, join, ← drop_settle, wait?_drop different]
  generalize promise.settle = promise
  cases promise.wait? other with
  | none => rfl
  | some wait =>
    cases ended : wait.outcome? with
    | some outcome => simp only [ended]
    | none =>
      cases deadline : wait.deadline with
      | none => simp only [ended, deadline]
      | some due => simp only [ended, deadline, drop_elapse, drop_settle]

end Promise

end ModelVault
