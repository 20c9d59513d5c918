import TicketFlow.Proofs.Sketch.Compile
import TicketFlow.Workspace.Sync

/-!
# Synchronising a workspace that holds a store

A workspace whose sketches are workflows and whose rules are rules of the engine holds a
store, and it is synchronised as that store. What is attempted with any other workspace
gives the same for this one: the same rules in the same order, the same number, and the
same error. So there is one way to synchronise a workspace, whatever it holds.
-/

namespace TicketFlow

open Fallible

namespace Workspace

variable {s : Workspace} {store : Store}

/-- A workspace holds a store when its parts are the sketches of those of the store. -/
structure Holds (s : Workspace) (store : Store) : Prop where
  workflows : s.storedSketches = .ofTable (store.workflows.mapEntries fun _ w => w.sketch)
  rules : s.rules = store.rules.map Rule.sketch
  fault : s.fault? = store.fault?

theorem holds_of_store? (h : s.store? = some store) : s.Holds store := by
  have rules {l : List Sketch.Rule} {rs : List Rule} :
      l.mapM Sketch.Rule.checked? = some rs ↔ l = rs.map Rule.sketch :=
    mapM_eq_some_iff fun _ _ => Sketch.Rule.checked?_eq_some_iff
  simp only [store?, Option.bind_eq_bind, Option.bind_eq_some_iff,
    Keyed.mapM_contents_iff fun _ _ => Sketch.workflow?_eq_some_iff, Keyed.table?_eq_some_iff,
    rules] at h
  obtain ⟨_, stored, table, rfl, rs, written, ⟨⟩⟩ := h
  exact ⟨stored.trans (Keyed.map_ofTable _ table), written, rfl⟩

/-! ## Compiling -/

theorem active_sketch (h : s.Holds store) : s.active = store.active.map Workflow.sketch := by
  rw [active, h.workflows, Keyed.values_ofTable, Store.active, Table.values,
    Table.entries_mapEntries, List.map_map, Table.values]
  simp only [Function.comp_def, List.filter_map, List.map_map]
  rfl

theorem rules_sketch (w : Workflow) :
    w.sketch.rules = (w.compile.mapError .compile).map (List.map Rule.sketch) := by
  rw [Sketch.rules_eq_compile, Workflow.compile_sketch]

/-- The rules of all enabled workflows, or why there are none. -/
theorem compileActive_cases (h : s.Holds store) : ∃ compiled : Except CompileError (List Rule),
    store.compileActive = compiled.mapError .compile ∧
      s.compileActive = (compiled.mapError .compile).map (List.map Rule.sketch) := by
  refine ⟨(store.active.mapM Workflow.compile).map List.flatten, ?_, ?_⟩
  · have each (w : Workflow) : Store.compileOne (id w) =
        (w.compile.mapError .compile).map id := by
      rw [id, Store.compileOne]
      cases w.compile <;> rfl
    have all := mapM_map_of_agree each store.active
    rw [List.map_id] at all
    rw [Store.compileActive, all]
    cases store.active.mapM Workflow.compile with
    | error e => rfl
    | ok lists =>
        rw [mapError_ok, map_ok, List.map_id]
        rfl
  · rw [compileActive, active_sketch h, mapM_map_of_agree rules_sketch]
    cases store.active.mapM Workflow.compile with
    | error e => rfl
    | ok lists =>
        simp only [mapError_ok, map_ok, ok_bind, List.map_flatten]
        rfl

/-- The rules that one workflow is to have, or why there are none. -/
theorem compileFor_cases (h : s.Holds store) (id : String) (enabled : Value) :
    ∃ compiled : Except CompileError (List Rule),
      store.compileFor id enabled.isSet = compiled.mapError .compile ∧
        s.compileFor (.string id) enabled =
          (compiled.mapError .compile).map (List.map Rule.sketch) := by
  have asKey : (Value.string id).asKey = .ok (.string id) := rfl
  have found : s.storedSketches.get? (.string id) =
      (store.workflows.get? id).map Workflow.sketch := by
    rw [h.workflows, Keyed.get?_ofTable]
    exact Table.lookup_map Workflow.sketch id store.workflows.entries
  rw [Store.compileFor, compileFor, asKey, ok_bind, found]
  cases store.workflows.get? id with
  | none =>
      refine ⟨.ok [], rfl, ?_⟩
      cases enabled.isSet <;> rfl
  | some w =>
      cases enabled.isSet
      · exact ⟨.ok [], rfl, rfl⟩
      · exact ⟨w.compile, rfl, rules_sketch w⟩

/-! ## Replacing rules -/

theorem replaceRules_sketch (h : s.Holds store) (stem : String) (compiled : List Rule) :
    s.replaceRules stem (compiled.map Rule.sketch) =
      match store.replaceRules stem compiled with
      | .ok store' => .ok { s with rules := store'.rules.map Rule.sketch }
      | .error error => .error (.ofSync error) := by
  have kept : (store.rules.map Rule.sketch).filterM (fun r => return !(← r.hasStem stem)) =
      (.ok ((store.rules.filter fun r => !r.hasStem stem).map Rule.sketch) :
        Except WorkspaceError (List Sketch.Rule)) :=
    filterM_map_pure Rule.sketch _ _ (fun _ => rfl) store.rules
  rw [replaceRules, Store.replaceRules, h.fault, h.rules]
  cases store.fault? with
  | some reason => rfl
  | none =>
      simp only [kept, List.map_append]
      rfl

/-- Replacing rules by compiled ones in a workspace and in the store that it holds. -/
theorem afterSync_sketch (h : s.Holds store) (stem : String)
    (compiled : Except CompileError (List Rule)) :
    s.afterSync (do
        let compiled ← compiled.mapError SyncError.compile
        return (← store.replaceRules stem compiled, compiled.length)) =
      (do
        let compiled ← ((compiled.mapError .compile).map (List.map Rule.sketch) :
          Attempt (List Sketch.Rule))
        return (← s.replaceRules stem compiled, compiled.length)) := by
  cases compiled with
  | error e => rfl
  | ok rules =>
      have replaced := replaceRules_sketch h stem rules
      simp only [mapError_ok, map_ok, ok_bind]
      change _ = (s.replaceRules stem (rules.map Rule.sketch) >>= _)
      rw [replaced]
      cases store.replaceRules stem rules with
      | error e => rfl
      | ok store' =>
          simp only [ok_bind]
          change Except.ok _ = Except.ok (_, (rules.map Rule.sketch).length)
          rw [List.length_map]

/-! ## Syncs -/

/-- All rules of a workspace are replaced in the same way, whether or not it is taken for a
store. -/
theorem syncAll_eq (s : Workspace) :
    s.syncAll = (do
      let compiled ← s.compileActive
      return (← s.replaceRules Rule.workflowStem compiled, compiled.length)) := by
  rw [syncAll]
  split
  · rename_i store found
    have h := holds_of_store? found
    obtain ⟨compiled, typed, untyped⟩ := compileActive_cases h
    rw [Store.syncAll, typed, untyped]
    exact afterSync_sketch h _ _
  · rfl

theorem syncWorkflow_eq (s : Workspace) (id enabled : Value) :
    s.syncWorkflow id enabled = (do
      let compiled ← s.compileFor id enabled
      return (← s.replaceRules (Rule.stem id.display) compiled, compiled.length)) := by
  rw [syncWorkflow]
  split
  · rename_i store name found text
    have h := holds_of_store? found
    rw [Value.asString?_eq_some_iff.mp text]
    obtain ⟨compiled, typed, untyped⟩ := compileFor_cases h name enabled
    rw [Store.syncWorkflow, typed, untyped]
    exact afterSync_sketch h _ _
  · rfl

end Workspace

end TicketFlow
