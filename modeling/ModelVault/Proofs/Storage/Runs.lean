import ModelVault.Proofs.Storage.Calls

/-!
Runs of a store. The calls of any number of clients come one after the other, in whatever order, and a
store of tables may be closed and opened anew in between.
-/

namespace ModelVault.Storage

/-- What can happen to a store. -/
inductive Event where
  | call (call : Call)
  /-- The store is opened anew, which brings back only what a file keeps. -/
  | reopened
  deriving DecidableEq

def Event.apply : Event → Store → Store
  | .call made, store => (store.perform made).2
  | .reopened, .nested store => .nested store
  | .reopened, .tabular store => .tabular store.reopen

namespace Store

variable {store : Store}

def after (store : Store) (events : List Event) : Store :=
  events.foldl (fun store event => event.apply store) store

/-- Whatever happens to a store of tables, it remains one. -/
theorem apply_tabular (tables : TableStore) (event : Event) :
    ∃ later, event.apply (tabular tables) = tabular later := by
  cases event with
  | call call => exact ⟨(tables.perform call).2, rfl⟩
  | reopened => exact ⟨tables.reopen, rfl⟩

theorem after_tabular (tables : TableStore) (events : List Event) :
    ∃ later, (tabular tables).after events = tabular later := by
  induction events generalizing tables with
  | nil => exact ⟨tables, rfl⟩
  | cons event rest ih =>
    obtain ⟨next, same⟩ := apply_tabular tables event
    obtain ⟨later, reached⟩ := ih next
    exact ⟨later, by rw [after, List.foldl_cons, same]; exact reached⟩

/-- The store is one that some run of an engine leads to. -/
def Reachable (store : Store) : Prop :=
  ∃ engine events, store = (Store.new engine).after events

/-- An event leaves the models as they are and answers nobody, or destroys them all, or is a call that
an open store serves. -/
theorem apply_cases (sound : store.Sound) (event : Event) :
    ((event.apply store).contents = store.contents ∧
      ∀ call, event = .call call → call = .destroy ∨ (store.perform call).1 = .error .destroyed) ∨
    (event = .call .destroy ∧ (event.apply store).contents = ∅) ∨
    ∃ call, event = .call call ∧ store.isOpen = true ∧
      store.Served call (store.perform call).1 (event.apply store).contents := by
  cases event with
  | reopened =>
    cases store with
    | nested store => exact .inl ⟨rfl, nofun⟩
    | tabular store => exact .inl ⟨rfl, nofun⟩
  | call call =>
    by_cases final : call = .destroy
    · subst final
      cases store with
      | nested store => exact .inr (.inl ⟨rfl, rfl⟩)
      | tabular store => exact .inl ⟨rfl, fun _ same => .inl (Event.call.inj same).symm⟩
    · cases opened : store.isOpen with
      | false =>
        have refused := perform_closed opened final
        refine .inl ⟨by rw [Event.apply, refused], ?_⟩
        intro other same
        cases same
        exact .inr (congrArg Prod.fst refused)
      | true => exact .inr (.inr ⟨call, rfl, rfl, (perform_served sound opened final).1⟩)

private theorem sound_destroyed : (nested .destroyed).Sound := by
  intro modelId model found
  simp [contents] at found

theorem sound_apply (sound : store.Sound) (event : Event) : (event.apply store).Sound := by
  cases event with
  | reopened =>
    cases store with
    | nested store => exact sound
    | tabular store => exact sound
  | call call =>
    by_cases final : call = .destroy
    · subst final
      cases store with
      | nested store => exact sound_destroyed
      | tabular store => exact sound
    · cases opened : store.isOpen with
      | false =>
        rw [Event.apply, perform_closed opened final]
        exact sound
      | true => exact (perform_served sound opened final).2.1

theorem sound_new (engine : Engine) : (Store.new engine).Sound := by
  cases engine with
  | memory =>
    intro modelId model found
    simp [NestedStore.empty, contents] at found
  | duckdb =>
    exact {
      modelKeys := List.nodup_nil
      versionKeys := List.nodup_nil
      models := by simp [TableStore.empty, TableStore.ofDatabase]
      versions := by simp [TableStore.empty, TableStore.ofDatabase]
      owned := by simp [TableStore.empty, TableStore.ofDatabase] }

theorem sound_after (sound : store.Sound) (events : List Event) : (store.after events).Sound := by
  induction events generalizing store with
  | nil => exact sound
  | cons event rest ih => exact ih (sound_apply sound event)

theorem Reachable.sound (reachable : store.Reachable) : store.Sound := by
  obtain ⟨engine, events, rfl⟩ := reachable
  exact sound_after (sound_new engine) events

end Store

end ModelVault.Storage
