import TicketFlow.Proofs.Store.Run
import TicketFlow.Proofs.Table

/-!
# Synchronising forgets

What a synchronisation leaves depends on the workflows that are stored at the time and on
the rules that it does not replace. An earlier one of the same kind has replaced the same
rules, and what it put in their place stands under the same stem, so it leaves no trace. For
one workflow this needs that it is stored under its own id, as everything is that was put in
place by upserts and deletions; all workflows together share a stem in any case.
-/

namespace TicketFlow

namespace Operation

/-- The operation stores or removes a workflow. -/
def IsEdit : Operation → Prop
  | .upsert _ => True
  | .delete _ => True
  | _ => False

/-- The operation synchronises rules. -/
def IsSync : Operation → Prop
  | .syncAll => True
  | .syncWorkflow _ _ => True
  | _ => False

end Operation

namespace Store

open Fallible
open Rule (workflowStem stem isManual)

variable {s s' : Store} {n : Nat} {id : String} {enabled : Bool} {op : Operation}
  {ops : List Operation}

/-- A store in memory: any rules, and workflows that were put in place by upserts and
deletions. -/
inductive Filled : Store → Prop where
  | empty (rules : List Rule) : Filled ⟨.empty, rules, none⟩
  | edit {s : Store} {op : Operation} (filled : Filled s) (edit : op.IsEdit) :
      Filled (s.after op)

/-- Every workflow is stored under its own id. -/
theorem Filled.keyed (h : s.Filled) : ∀ e ∈ s.workflows.entries, e.2.id = e.1 := by
  induction h with
  | empty rules => exact List.forall_mem_nil _
  | @edit s op _ edit ih =>
      intro e he
      cases op with
      | upsert w =>
          rcases Table.mem_entries_of_insert he with rfl | he
          · rfl
          · exact ih e he
      | delete id => exact ih e (List.mem_filter.mp he).1
      | syncAll => exact edit.elim
      | syncWorkflow id enabled => exact edit.elim
      | setFault fault? => exact edit.elim

/-- What a synchronisation of one workflow adds stands under its stem. -/
theorem Filled.hasStem_of_mem_compileFor (h : s.Filled) {compiled : List Rule}
    (hc : s.compileFor id enabled = .ok compiled) {r : Rule} (hr : r ∈ compiled) :
    r.hasStem (stem id) = true := by
  obtain ⟨w, hw, compiles⟩ := exists_of_mem_compileFor hc hr
  have own : w.id = id := h.keyed _ (Table.get?_eq_some_iff.mp hw)
  exact own ▸ Workflow.hasStem_of_mem_compile compiles hr

/-! ## What a synchronisation depends on -/

/-- A synchronisation of one workflow depends on the workflows and on the rules under other
stems. -/
theorem syncWorkflow_congr (workflows : s'.workflows = s.workflows)
    (fault : s'.fault? = s.fault?)
    (others : s'.rules.filter (fun r => !r.hasStem (stem id)) =
      s.rules.filter fun r => !r.hasStem (stem id)) :
    s'.syncWorkflow id enabled = s.syncWorkflow id enabled := by
  simp only [syncWorkflow, compileFor, replaceRules, workflows, fault, others]

/-- A synchronisation of all workflows depends on them and on the rules written by hand. -/
theorem syncAll_congr (workflows : s'.workflows = s.workflows) (fault : s'.fault? = s.fault?)
    (manual : s'.rules.filter isManual = s.rules.filter isManual) :
    s'.syncAll = s.syncAll := by
  have others : s'.rules.filter (fun r => !r.hasStem workflowStem) =
      s.rules.filter fun r => !r.hasStem workflowStem := manual
  simp only [syncAll, compileActive, active, replaceRules, workflows, fault, others]

/-! ## What operations leave alone -/

/-- The store with other rules. -/
def withRules (s : Store) (rules : List Rule) : Store :=
  { s with rules }

/-- A synchronisation of one workflow, also one that fails, changes the rules only, and of
them only those under the stem of the workflow. -/
theorem Filled.after_syncWorkflow (h : s.Filled) (id : String) (enabled : Bool) :
    ∃ rules, s.after (.syncWorkflow id enabled) = s.withRules rules ∧
      rules.filter (fun r => !r.hasStem (stem id)) =
        s.rules.filter fun r => !r.hasStem (stem id) := by
  rw [after]
  split
  case h_2 => exact ⟨s.rules, rfl, rfl⟩
  case h_1 s' performed =>
    obtain ⟨⟨s', n⟩, hsync, rfl⟩ := map_eq_ok.mp performed
    obtain ⟨compiled, hcompiled, -, rfl, -⟩ := syncWorkflow_eq_ok.mp hsync
    refine ⟨_, rfl, ?_⟩
    have dropped : compiled.filter (fun r => !r.hasStem (stem id)) = [] := by
      rw [List.filter_eq_nil_iff]
      intro r hr
      simp [h.hasStem_of_mem_compileFor hcompiled hr]
    rw [List.filter_append, dropped, List.append_nil, List.filter_filter]
    simp only [Bool.and_self]

/-- A synchronisation, also one that fails, changes the rules only. -/
theorem after_sync (s : Store) (sync : op.IsSync) :
    ∃ rules, s.after op = s.withRules rules := by
  rw [after]
  split
  case h_2 => exact ⟨s.rules, rfl⟩
  case h_1 s' performed =>
    cases op with
    | upsert w => exact sync.elim
    | delete id => exact sync.elim
    | syncAll =>
        obtain ⟨⟨s', n⟩, hsync, rfl⟩ := map_eq_ok.mp performed
        obtain ⟨compiled, -, replaced, -⟩ := syncAll_eq_ok.mp hsync
        exact ⟨_, (replaceRules_eq_ok.mp replaced).2⟩
    | syncWorkflow id enabled =>
        obtain ⟨⟨s', n⟩, hsync, rfl⟩ := map_eq_ok.mp performed
        obtain ⟨compiled, -, -, same, -⟩ := syncWorkflow_eq_ok.mp hsync
        exact ⟨_, same⟩
    | setFault fault? => exact sync.elim

theorem run_syncs (s : Store) (syncs : ∀ op ∈ ops, op.IsSync) :
    ∃ rules, s.run ops = s.withRules rules := by
  induction ops generalizing s with
  | nil => exact ⟨s.rules, rfl⟩
  | cons op ops ih =>
      obtain ⟨first, rest⟩ := List.forall_mem_cons.mp syncs
      obtain ⟨rules, changed⟩ := after_sync s first
      obtain ⟨rules', changed'⟩ := ih (s.after op) rest
      have same : (s.after op).withRules rules' = s.withRules rules' := by
        rw [changed]
        rfl
      exact ⟨rules', changed'.trans same⟩

/-- An edit does the same whatever the rules are, and leaves them alone. -/
theorem after_edit (edit : op.IsEdit) (s : Store) (rules : List Rule) :
    (s.withRules rules).after op = (s.after op).withRules rules := by
  cases op with
  | upsert w => rfl
  | delete id => rfl
  | syncAll => exact edit.elim
  | syncWorkflow id enabled => exact edit.elim
  | setFault fault? => exact edit.elim

theorem run_edits (edits : ∀ op ∈ ops, op.IsEdit) (s : Store) (rules : List Rule) :
    (s.withRules rules).run ops = (s.run ops).withRules rules := by
  induction ops generalizing s with
  | nil => rfl
  | cons op ops ih =>
      obtain ⟨first, rest⟩ := List.forall_mem_cons.mp edits
      rw [run, run, List.foldl_cons, List.foldl_cons, after_edit first]
      exact ih rest (s.after op)

/-! ## Synchronising once more -/

/-- What an earlier synchronisation of a workflow left is gone after the next one. -/
theorem Filled.syncWorkflow_after (h : s.Filled) (id : String) (enabled enabled' : Bool)
    (edits : ∀ op ∈ ops, op.IsEdit) :
    ((s.after (.syncWorkflow id enabled)).run ops).syncWorkflow id enabled' =
      (s.run ops).syncWorkflow id enabled' := by
  obtain ⟨rules, changed, others⟩ := h.after_syncWorkflow id enabled
  have unchanged : (s.run ops).rules = s.rules := by
    have same := congrArg Store.rules (run_edits edits s s.rules)
    exact same
  rw [changed, run_edits edits]
  refine syncWorkflow_congr ?_ ?_ ?_
  · rfl
  · rfl
  · rw [unchanged]
    exact others

/-- What earlier synchronisations left is gone after one of all workflows. -/
theorem syncAll_run (s : Store) (syncs : ∀ op ∈ ops, op.IsSync) :
    (s.run ops).syncAll = s.syncAll := by
  obtain ⟨rules, changed⟩ := run_syncs s syncs
  have manual := (rewritten_run s ops).filter_eq
  rw [changed] at manual ⊢
  refine syncAll_congr ?_ ?_ manual
  · rfl
  · rfl

/-- A synchronisation of all workflows leaves the rules written by hand and, behind them, what
each enabled workflow compiles to. -/
theorem rules_syncAll (h : s.syncAll = .ok (s', n)) : ∃ lists,
    List.Forall₂ (fun w own => Workflow.compile w = .ok own) s.active lists ∧
      s'.rules = s.rules.filter isManual ++ lists.flatten := by
  obtain ⟨compiled, hcompiled, replaced, -⟩ := syncAll_eq_ok.mp h
  obtain ⟨-, rfl⟩ := replaceRules_eq_ok.mp replaced
  obtain ⟨lists, hlists, rfl⟩ := map_eq_ok.mp hcompiled
  exact ⟨lists, (mapM_eq_ok.mp hlists).imp fun w own => compileOne_eq_ok.mp, rfl⟩

/-- Synchronising depends on the present, not on history. In a store in memory, a
synchronisation of one workflow comes to the same, after any upserts and deletions, whether
or not this workflow was synchronised before them. One of all workflows comes to the same
after any synchronisations as without them, and if it succeeds, it leaves the rules written by
hand in their order, followed by what the enabled workflows compile to in theirs. So a
synchronisation that has succeeded changes nothing when it is repeated. -/
theorem sync_depends_on_present (filled : s.Filled) :
    (∀ id enabled enabled' edits, (∀ op ∈ edits, op.IsEdit) →
      ((s.after (.syncWorkflow id enabled)).run edits).syncWorkflow id enabled' =
        (s.run edits).syncWorkflow id enabled') ∧
    (∀ syncs, (∀ op ∈ syncs, op.IsSync) → (s.run syncs).syncAll = s.syncAll) ∧
    (∀ s' n, s.syncAll = .ok (s', n) → ∃ lists,
      List.Forall₂ (fun w own => Workflow.compile w = .ok own) s.active lists ∧
        s'.rules = s.rules.filter isManual ++ lists.flatten) ∧
    (∀ id enabled s' n, s.syncWorkflow id enabled = .ok (s', n) →
      s'.syncWorkflow id enabled = .ok (s', n)) ∧
    ∀ s' n, s.syncAll = .ok (s', n) → s'.syncAll = .ok (s', n) := by
  refine ⟨fun id enabled enabled' edits => filled.syncWorkflow_after id enabled enabled',
    fun syncs => syncAll_run s, fun s' n => rules_syncAll, ?one, ?all⟩
  case one =>
    intro id enabled s' n h
    have first : s.after (.syncWorkflow id enabled) = s' := by rw [after, perform, h, map_ok]
    have again := filled.syncWorkflow_after id enabled enabled (List.forall_mem_nil _)
    rw [first] at again
    exact again.trans h
  case all =>
    intro s' n h
    have first : s.after .syncAll = s' := by rw [after, perform, h, map_ok]
    have syncs : ∀ op ∈ [Operation.syncAll], op.IsSync := by simp [Operation.IsSync]
    have again := syncAll_run s syncs
    rw [run, List.foldl_cons, first] at again
    exact again.trans h

/-- A workflow is stored beside a rule by hand and one of a workflow that is gone. -/
def moved : Store :=
  run ⟨.empty, [⟨"hand", .trigger, "By hand", true, [], []⟩,
    ⟨"wf-old-t-1", .trigger, "Old", true, [], []⟩], none⟩
    [.upsert (Workflow.sample "a" "hall")]

/-- The rules of a workflow as it was when it was synchronised first are gone after it was
replaced and synchronised again, and so is the rule of the other workflow when all are. -/
theorem moved_sync_depends_on_present : moved.Filled ∧
    (∃ s' n, ((moved.after (.syncWorkflow "a" true)).run
        [.upsert (Workflow.sample "a" "room")]).syncWorkflow "a" true = .ok (s', n) ∧
      s'.rules.map Rule.id = ["hand", "wf-old-t-1", "wf-a-entry-room", "wf-a-t-room",
        "wf-a-enter-room", "wf-a-sla-room"]) ∧
    ∃ s' n, (moved.run [.syncWorkflow "a" true, .syncWorkflow "a" false, .syncAll]).syncAll =
        .ok (s', n) ∧
      s'.rules.map Rule.id = ["hand", "wf-a-entry-hall", "wf-a-t-hall", "wf-a-enter-hall",
        "wf-a-sla-hall"] := by
  have edit : (Operation.upsert (Workflow.sample "a" "hall")).IsEdit := trivial
  have filled : moved.Filled := .edit (.empty _) edit
  obtain ⟨one, all, -⟩ := sync_depends_on_present filled
  refine ⟨filled, ?_, ?_⟩
  · rw [one "a" true true _ (by simp [Operation.IsEdit])]
    exact ⟨_, _, rfl, by decide⟩
  · rw [all _ (by simp [Operation.IsSync])]
    exact ⟨_, _, rfl, by decide⟩

end Store

end TicketFlow
