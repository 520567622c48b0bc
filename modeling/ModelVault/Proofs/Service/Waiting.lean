import ModelVault.Proofs.Service.Operations

/-!
What those who wait for a promise can count on, whatever others do and in whatever order.
-/

namespace ModelVault

namespace Promise

variable {α : Type}

/-- What a promise and those who wait for it come to by any acts in any order. -/
structure Keeps (acts : List (Act α)) : Prop where
  /-- The first set succeeds, -/
  firstSet : ∀ before value rest, acts = before ++ .set value :: rest → firstSet? before = none →
    ((run before).promise.set value).1 = .ok ()
  /-- every later one fails and changes nothing, -/
  laterSets : ∀ before value rest, acts = before ++ .set value :: rest → firstSet? before ≠ none →
    (run before).promise.set value = (.error .alreadySet, (run before).promise) ∧
      run (before ++ [.set value]) = run before
  /-- and the value is the one that was set first. -/
  value : (run acts).promise.value? = firstSet? acts
  /-- A wait ends with this value, or at its deadline while there is none, and in no other way. -/
  outcomes : ∀ wait ∈ (run acts).promise.waits, ∀ outcome, wait.outcome? = some outcome →
    Earned acts wait.name wait.deadline outcome
  /-- One that begins after the set ends with the value at its first step, whatever its deadline. -/
  begunLater : ∀ before name deadline rest value, acts = before ++ .start name deadline :: rest →
    firstSet? before = some value → Spared name rest → 1 ≤ rest.countP (Act.advances name) →
      ((run acts).promise.wait? name).bind (·.outcome?) = some (.ok value)
  /-- One that is pending at the set, also between its first look and its watching, ends with the value within
  two steps, though its deadline may pass before them, -/
  begunBefore : ∀ before value rest name wait, acts = before ++ .set value :: rest → firstSet? before = none →
    (run before).promise.wait? name = some wait → wait.outcome? = none → Spared name rest →
      2 ≤ rest.countP (Act.advances name) →
        ((run acts).promise.wait? name).bind (·.outcome?) = some (.ok value)
  /-- and can take them: nobody sleeps once there is a value or his deadline has passed. -/
  awake : ∀ wait ∈ (run acts).promise.waits, wait.name ∈ (run acts).asleep →
    (run acts).promise.value? = none ∧ wait.isDue (run acts).promise.clock = false
  /-- Without the acts of one wait, be it given up or not, all else comes to the same. -/
  others : ∀ name, run (acts.filter fun act => !act.concerns name) = (run acts).without name
  /-- Whatever is done to the promise is a number of such acts. -/
  operations : ∀ next, Operates (run acts).promise next → ∃ more, (run (acts ++ more)).promise = next
  /-- To await the promise while nobody acts is to begin a wait, and to give it up in the end, -/
  awaits : ∀ name deadline, (run acts).promise.wait? name = none → ∃ more, Idle more ∧
    ((run acts).promise.await deadline).1 =
      ((run (acts ++ .start name deadline :: more)).promise.wait? name).bind (·.outcome?) ∧
    ((run acts).promise.await deadline).2 = (run (acts ++ .start name deadline :: more)).promise.drop name
  /-- which comes to nothing only without a deadline. -/
  awaitsInVain : ∀ deadline, ((run acts).promise.await deadline).1 = none ↔ firstSet? acts = none ∧ deadline = none
  /-- To join a wait while nobody acts is to look at it in the end, -/
  joins : ∀ name, ∃ more, Idle more ∧ (run (acts ++ more)).promise = ((run acts).promise.join name).2 ∧
    ((run acts).promise.join name).1 = ((run (acts ++ more)).promise.wait? name).bind (·.outcome?)
  /-- and again comes to nothing only without a deadline, or without a wait. -/
  joinsInVain : ∀ name, ((run acts).promise.join name).1 = none ↔
    ∀ wait, (run acts).promise.wait? name = some wait →
      wait.outcome? = none ∧ wait.deadline = none ∧ firstSet? acts = none

private theorem laterSet {acts : List (Act α)} (isSet : firstSet? acts ≠ none) (value : α) :
    (run acts).promise.set value = (.error .alreadySet, (run acts).promise) := by
  rw [← (kept_run acts).value] at isSet
  obtain ⟨other, present⟩ := Option.ne_none_iff_exists'.mp isSet
  exact set_of_some present

private theorem firstSet?_set (before : List (Act α)) (value : α) :
    firstSet? (before ++ [.set value]) = (firstSet? before).or (some value) := by
  rw [firstSet?_append]
  rfl

/-- Every promise keeps this, whatever the order of the acts. -/
theorem keeps (acts : List (Act α)) : Keeps acts where
  firstSet := by
    rintro before value rest rfl unset
    rw [← (kept_run before).value] at unset
    rw [Promise.set, unset]
  laterSets := by
    rintro before value rest rfl isSet
    have failed := laterSet isSet value
    exact ⟨failed, by rw [run_concat, Act.apply, failed]⟩
  value := (kept_run acts).value
  outcomes := by
    intro wait member outcome ended
    refine (kept_run acts).ended wait member outcome ?_
    unfold Wait.outcome? at ended
    split at ended
    · next phase => rw [phase, Option.some.inj ended]
    · cases ended
  begunLater := by
    rintro before name deadline rest value rfl isSet spared steps
    have begun : firstSet? (before ++ [.start name deadline]) = some value := by
      rw [firstSet?_append, isSet, Option.some_or]
    have new : (run (before ++ [.start name deadline])).promise.wait? name = some ⟨name, deadline, .started⟩ := by
      have gone : ((run before).promise.drop name).waits.find? (·.name = name) = none :=
        List.find?_eq_none.mpr fun wait member => by simpa using (List.mem_filter.mp member).2
      simp [run_concat, Act.apply, wait?, List.find?_append, gone]
    rw [List.append_cons, wait?_run begun spared, new]
    exact Wait.outcome?_of_started rfl steps
  begunBefore := by
    rintro before value rest name wait rfl unset found pending spared steps
    have isSet : firstSet? (before ++ [.set value]) = some value := by rw [firstSet?_set, unset, Option.none_or]
    have still : (run (before ++ [.set value])).promise.wait? name = some wait := by
      rw [← (kept_run before).value] at unset
      rw [run_concat, Act.apply]
      simp only [Promise.set, unset]
      exact found
    rw [List.append_cons, wait?_run isSet spared, still]
    exact Wait.outcome?_of_pending pending steps
  awake := by
    intro wait member asleep
    exact (Wait.looksInVain_iff.mp ((kept_run acts).asleep wait member asleep)).2
  others := run_filter acts
  operations _ := exists_run_of_operates acts
  awaits _ deadline fresh := exists_await acts deadline fresh
  awaitsInVain deadline := by rw [await_eq_none_iff, (kept_run acts).value]
  joins name := by
    obtain ⟨more, idle, reached⟩ := exists_join acts name
    exact ⟨more, idle, reached, by rw [reached, join_eq]⟩
  joinsInVain name := by rw [join_eq_none_iff, (kept_run acts).value]

/-- The value comes after the first look, and the deadline passes before the wait watches. -/
example : ((run [.start "a" (some 5), .advance "a", .set true, .pass 9, .advance "a", .advance "a"]).promise.wait?
    "a").bind (·.outcome?) = some (.ok true) := rfl

end Promise

end ModelVault
