import ModelVault.Proofs.Client.Asking

/-!
The loop that collects the pages of a listing, without the bound that makes it a recursion. As long as every
page that is not empty moves on towards a last position, no bound above that position is ever met.
-/

namespace ModelVault.Client

variable {α σ : Type}

/-- Pages are fetched from a handle on until one is empty. -/
inductive Collects (fetch : String → Work (List α × String)) (answer : Request → σ → Option Answer × σ) :
    String → σ → List α → σ → Prop where
  | last {handle next : String} {state after : σ}
    (fetched : (fetch handle).run.run? answer state = (some (.ok ([], next)), after)) :
    Collects fetch answer handle state [] after
  | page {handle next : String} {state between after : σ} {page others : List α}
    (fetched : (fetch handle).run.run? answer state = (some (.ok (page, next)), between)) (more : page ≠ [])
    (rest : Collects fetch answer next between others after) :
    Collects fetch answer handle state (page ++ others) after

/-- Handles stand for positions in some states, none of them beyond a last one, and every page that is not
empty is followed by a handle for a higher position. -/
structure Rises (fetch : String → Work (List α × String)) (answer : Request → σ → Option Answer × σ)
    (StandsFor : String → σ → Nat → Prop) (top : Nat) : Prop where
  bounded : ∀ {handle state position}, StandsFor handle state position → position ≤ top
  next : ∀ {handle state position page next after}, StandsFor handle state position →
    (fetch handle).run.run? answer state = (some (.ok (page, next)), after) → page ≠ [] →
    ∃ higher, position < higher ∧ StandsFor next after higher

variable {fetch : String → Work (List α × String)} {answer : Request → σ → Option Answer × σ}
  {StandsFor : String → σ → Nat → Prop} {top position : Nat} {handle : String} {state after : σ}

theorem collect_succ (bound : Nat) : collect fetch (bound + 1) handle = (fetch handle >>= fun fetched =>
    if fetched.1.isEmpty then pure []
    else collect fetch bound fetched.2 >>= fun others => pure (fetched.1 ++ others)) := rfl

theorem collects_of_run (rises : Rises fetch answer StandsFor top) {bound : Nat}
    (enough : top < bound + position) (here : StandsFor handle state position) {all : List α}
    (done : (collect fetch bound handle).run.run? answer state = (some (.ok all), after)) :
    Collects fetch answer handle state all after := by
  induction bound generalizing position handle state all with
  | zero =>
    have bounded := rises.bounded here
    omega
  | succ bound ih =>
    rw [collect_succ] at done
    obtain ⟨⟨page, next⟩, between, fetched, rest⟩ := run?_bind_ok done
    cases page with
    | nil =>
      cases rest
      exact .last fetched
    | cons entry entries =>
      obtain ⟨others, later, collected, ended⟩ := run?_bind_ok rest
      cases ended
      obtain ⟨higher, above, there⟩ := rises.next here fetched (List.cons_ne_nil _ _)
      exact .page fetched (List.cons_ne_nil _ _) (ih (by omega) there collected)

/-- The loop comes to an end by itself: it makes no difference which of two bounds it has. -/
theorem run?_collect_bound (rises : Rises fetch answer StandsFor top) {bound other : Nat}
    (enough : top < bound + position) (otherEnough : top < other + position)
    (here : StandsFor handle state position) :
    (collect fetch bound handle).run.run? answer state = (collect fetch other handle).run.run? answer state := by
  induction bound generalizing position handle state other with
  | zero =>
    have bounded := rises.bounded here
    omega
  | succ bound ih =>
    cases other with
    | zero =>
      have bounded := rises.bounded here
      omega
    | succ other =>
      rw [collect_succ, collect_succ, Dialogue.run?_bind_eq, Dialogue.run?_bind_eq]
      rcases fetched : (fetch handle).run.run? answer state with ⟨none | failure | ⟨page, next⟩, between⟩
      · rfl
      · rfl
      · cases page with
        | nil => rfl
        | cons entry entries =>
          obtain ⟨higher, above, there⟩ := rises.next here fetched (List.cons_ne_nil _ _)
          have same := ih (show top < bound + higher by omega) (show top < other + higher by omega) there
          simp only [List.isEmpty_cons, Bool.false_eq_true, if_false]
          rw [Dialogue.run?_bind_eq, Dialogue.run?_bind_eq, same]

end ModelVault.Client
