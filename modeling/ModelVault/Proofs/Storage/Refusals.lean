import ModelVault.Proofs.Storage.Runs

/-!
What a refused call leaves behind: nothing, but for a version that the nested engine refuses to put into
a model which it has just made for it.
-/

namespace ModelVault.Storage.Store

variable {store : Store} {call : Call}

/-- The call puts a version into a model that the nested engine does not know, under a number that no
new model can hand out. -/
def Strays (store : Store) (call : Call) : Prop :=
  ∃ models modelId draft, store = .nested (.live models) ∧ call = .putVersion modelId draft ∧
    modelId ∉ models ∧ draft.number ≠ 0 ∧ draft.number ≠ 1

private theorem transact_refused {tables : TableStore} {α : Type}
    {change : Tables → Except StoreError (α × Tables)} {refusal : StoreError}
    (refused : (tables.transact change).1 = .error refusal) : (tables.transact change).2 = tables := by
  rw [TableStore.transact] at refused ⊢
  split at refused
  · next opened =>
    rw [if_pos opened]
    cases outcome : change tables.tables with
    | error other => rfl
    | ok result => simp [outcome] at refused
  · next closed => rw [if_neg closed]

private theorem tabular_refused {tables : TableStore} {refusal : StoreError}
    (refused : (tables.perform call).1 = .error refusal) : (tables.perform call).2 = tables := by
  cases call with
  | putModel modelId userData => exact transact_refused refused
  | deleteModel modelId => exact transact_refused refused
  | putVersion modelId draft => exact transact_refused refused
  | deleteVersion modelId number => exact transact_refused refused
  | destroy => cases refused
  | _ =>
    obtain ⟨isOpen, rows⟩ := tables
    cases isOpen <;> rfl

private theorem new_putVersion_refuses (modelId : String) {draft : VersionDraft} (positive : draft.number ≠ 0)
    (later : draft.number ≠ 1) : (StoredModel.new ∅).putVersion modelId draft =
      .error (.invalidVersionNumber modelId draft.number 1) := by
  rw [StoredModel.putVersion_eq_error, assignNumber, if_neg, if_neg (by decide), if_neg]
  · rfl
  · exact not_or.mpr ⟨positive, later⟩
  · simp [StoredModel.new]

private theorem new_putVersion_refused {modelId : String} {draft : VersionDraft} {refusal : StoreError}
    (refused : (StoredModel.new ∅).putVersion modelId draft = .error refusal) :
    draft.number ≠ 0 ∧ draft.number ≠ 1 := by
  rw [StoredModel.putVersion_eq_error, assignNumber, if_neg (by simp [StoredModel.new]),
    if_neg (by decide)] at refused
  split at refused
  · cases refused
  · next other => exact not_or.mp other

private theorem live_refused {models : Std.ExtTreeMap String StoredModel} {refusal : StoreError}
    (refused : (NestedStore.perform call (.live models)).1 = .error refusal)
    (clean : ¬(nested (.live models)).Strays call) :
    (NestedStore.perform call (.live models)).2 = .live models := by
  cases call with
  | putModel modelId userData => cases refused
  | destroy => cases refused
  | deleteModel modelId =>
    rw [NestedStore.perform, NestedStore.deleteModel] at refused ⊢
    split at refused
    · cases refused
    · next unknown => rw [if_neg unknown]
  | putVersion modelId draft =>
    simp only [NestedStore.perform, NestedStore.putVersion] at refused ⊢
    cases stored : (models.getD modelId (.new ∅)).putVersion modelId draft with
    | ok result => simp [stored] at refused
    | error other =>
      have known : modelId ∈ models := by
        by_contra unknown
        rw [Std.ExtTreeMap.getD_eq_getD_getElem?, Std.ExtTreeMap.getElem?_eq_none unknown] at stored
        exact clean ⟨models, modelId, draft, rfl, rfl, unknown, new_putVersion_refused stored⟩
      -- The model is put back as it was found.
      simp only [NestedStore.live.injEq]
      apply Std.ExtTreeMap.ext_getElem?
      intro wanted
      rw [Std.ExtTreeMap.getElem?_insert, Std.ExtTreeMap.getD_eq_getD_getElem?]
      split
      · next same =>
        rw [← Std.LawfulEqCmp.eq_of_compare same, Std.ExtTreeMap.getElem?_eq_some_getElem known, Option.getD_some]
      · rfl
  | deleteVersion modelId number =>
    simp only [NestedStore.perform, NestedStore.deleteVersion] at refused ⊢
    cases known : models[modelId]? with
    | none => rfl
    | some model =>
      cases found : model.version modelId number with
      | error other => simp only [found]
      | ok version => simp [known, found] at refused
  | _ => rfl

/-- A call that strays is refused, but the model that it has made stays. -/
private theorem strays_perform (strays : store.Strays call) : ∃ modelId number,
    (store.perform call).1 = .error (.invalidVersionNumber modelId number 1) ∧
      (store.perform call).2 = .nested (.live (store.contents.insert modelId (.new ∅))) ∧
      (store.perform (.hasModel modelId)).1 = .ok false ∧
      ((store.perform call).2.perform (.hasModel modelId)).1 = .ok true := by
  obtain ⟨models, modelId, draft, rfl, rfl, unknown, positive, later⟩ := strays
  have new : models.getD modelId (.new ∅) = .new ∅ := by
    rw [Std.ExtTreeMap.getD_eq_getD_getElem?, Std.ExtTreeMap.getElem?_eq_none unknown, Option.getD_none]
  have performed : (nested (.live models)).perform (.putVersion modelId draft) =
      (.error (.invalidVersionNumber modelId draft.number 1), nested (.live (models.insert modelId (.new ∅)))) := by
    simp only [perform, NestedStore.perform, NestedStore.putVersion, new,
      new_putVersion_refuses modelId positive later]
    rfl
  have absent : models.contains modelId = false := by
    rwa [← Bool.not_eq_true, ← Std.ExtTreeMap.mem_iff_contains]
  refine ⟨modelId, draft.number, congrArg Prod.fst performed, congrArg Prod.snd performed, ?_, ?_⟩
  · exact congrArg Except.ok absent
  · rw [performed]
    exact congrArg Except.ok Std.ExtTreeMap.contains_insert_self

/-- A call that is refused leaves the store as it was, of either engine and in any state, exactly if it
does not stray. One that strays is refused, and the store has a model then that it did not have. -/
theorem perform_refused_iff (store : Store) (call : Call) :
    (∀ refusal, (store.perform call).1 = .error refusal →
      ((store.perform call).2 = store ↔ ¬store.Strays call)) ∧
    (store.Strays call → ∃ modelId number,
      (store.perform call).1 = .error (.invalidVersionNumber modelId number 1) ∧
        (store.perform call).2 = .nested (.live (store.contents.insert modelId (.new ∅))) ∧
        (store.perform (.hasModel modelId)).1 = .ok false ∧
        ((store.perform call).2.perform (.hasModel modelId)).1 = .ok true) := by
  refine ⟨?_, strays_perform⟩
  intro refusal refused
  constructor
  · intro same strays
    obtain ⟨modelId, number, _, _, before, after⟩ := strays_perform strays
    rw [same, before] at after
    cases after
  · intro clean
    cases store with
    | tabular tables => exact congrArg tabular (tabular_refused refused)
    | nested store =>
      cases store with
      | live models => exact congrArg nested (live_refused refused clean)
      | destroyed =>
        have lasting : call ≠ .destroy := by
          rintro rfl
          cases refused
        rw [perform_closed rfl lasting]

/-- The seventh version of a model that does not exist is refused by both engines, and changes one. -/
theorem perform_refused_iff_gap :
    let call : Call := .putVersion "m" ⟨7, ⟨0, 0⟩, false, "", [], ∅, by decide⟩
    ((Store.new .memory).perform call).2 ≠ Store.new .memory ∧
      ((Store.new .duckdb).perform call).2 = Store.new .duckdb := by
  intro call
  have refused : ∀ engine, ((Store.new engine).perform call).1 = .error (.invalidVersionNumber "m" 7 1) := by
    intro engine
    cases engine <;> rfl
  constructor
  · intro same
    have clean := ((perform_refused_iff (Store.new .memory) call).1 _ (refused .memory)).mp same
    exact clean ⟨∅, "m", ⟨7, ⟨0, 0⟩, false, "", [], ∅, by decide⟩, rfl, rfl, by simp, by decide, by decide⟩
  · apply ((perform_refused_iff (Store.new .duckdb) call).1 _ (refused .duckdb)).mpr
    rintro ⟨models, modelId, draft, same, _⟩
    cases same

/-- So a refused call may change what later calls answer. -/
theorem refused_call_changes_answer : ¬∀ (store : Store) (call later : Call) (refusal : StoreError),
    (store.perform call).1 = .error refusal →
      ((store.perform call).2.perform later).1 = (store.perform later).1 := by
  intro unchanged
  have same : (.ok true : Except StoreError Bool) = .ok false :=
    unchanged (Store.new .memory) (.putVersion "m" ⟨7, ⟨0, 0⟩, false, "", [], ∅, by decide⟩) (.hasModel "m")
      (.invalidVersionNumber "m" 7 1) rfl
  cases same

end ModelVault.Storage.Store
