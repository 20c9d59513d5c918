import TicketFlow.Proofs.Store.Sync

/-!
# Runs of a store

Whatever is done to a store, in whatever order and whether or not it succeeds, its rules
change in one way only: some rules of workflows are dropped, and rules of workflows are
appended. Changes of this kind compose, so the rules written by hand survive every run.
-/

namespace TicketFlow

/-- The rule was written by hand: its id is not that of a rule of some workflow. -/
def Rule.isManual (r : Rule) : Bool :=
  !r.hasStem Rule.workflowStem

/-- What can be done to a store. Whether rules can be written is up to the outside. -/
inductive Operation where
  | upsert (w : Workflow)
  | delete (id : String)
  | syncAll
  | syncWorkflow (id : String) (enabled : Bool)
  | setFault (fault? : Option String)

namespace Rule

theorem isManual_eq_false {r : Rule} :
    r.isManual = false ↔ ∃ rest, r.id = workflowStem ++ rest := by
  rw [isManual, Bool.not_eq_false', hasStem_iff]

/-- The stem of one workflow begins with that of all workflows. -/
theorem isManual_eq_false_of_hasStem {workflowId : String} {r : Rule}
    (h : r.hasStem (stem workflowId) = true) : r.isManual = false := by
  obtain ⟨rest, id⟩ := hasStem_iff.mp h
  apply isManual_eq_false.mpr
  exact ⟨workflowId ++ "-" ++ rest, by simp only [id, stem, String.append_assoc]⟩

/-- Some rules of workflows are dropped, and rules of workflows are appended. -/
def Rewritten (rules rules' : List Rule) : Prop :=
  ∃ kept added, rules' = kept ++ added ∧ kept.Sublist rules ∧
    kept.filter isManual = rules.filter isManual ∧ ∀ r ∈ added, r.isManual = false

namespace Rewritten

variable {rules rules' rules'' : List Rule}

theorem refl (rules : List Rule) : Rewritten rules rules :=
  ⟨rules, [], (List.append_nil rules).symm, .refl rules, rfl, by simp⟩

/-- Rules of workflows leave no trace among the rules written by hand. -/
theorem filter_append {kept added : List Rule} (h : ∀ r ∈ added, r.isManual = false) :
    (kept ++ added).filter isManual = kept.filter isManual := by
  have none : added.filter isManual = [] := List.filter_eq_nil_iff.mpr (by simpa using h)
  rw [List.filter_append, none, List.append_nil]

/-- Later changes drop some of the rules that earlier ones kept or appended. -/
theorem trans (h : Rewritten rules rules') (h' : Rewritten rules' rules'') :
    Rewritten rules rules'' := by
  obtain ⟨kept, added, rfl, sub, manual, ours⟩ := h
  obtain ⟨kept', added', rfl, sub', manual', ours'⟩ := h'
  obtain ⟨stay, stay', rfl, hstay, hstay'⟩ := List.sublist_append_iff.mp sub'
  have late : ∀ r ∈ stay', r.isManual = false := fun r hr => ours r (hstay'.subset hr)
  refine ⟨stay, stay' ++ added', List.append_assoc .., hstay.trans sub, ?_, ?_⟩
  · calc stay.filter isManual
        = (stay ++ stay').filter isManual := (filter_append late).symm
      _ = (kept ++ added).filter isManual := manual'
      _ = kept.filter isManual := filter_append ours
      _ = rules.filter isManual := manual
  · intro r hr
    exact (List.mem_append.mp hr).elim (late r) (ours' r)

theorem filter_eq (h : Rewritten rules rules') :
    rules'.filter isManual = rules.filter isManual := by
  obtain ⟨kept, added, rfl, -, manual, ours⟩ := h
  rw [filter_append ours, manual]

end Rewritten

end Rule

namespace Workflow

variable {w : Workflow} {rules : List Rule} {r : Rule}

/-- A compiled rule stands under the stem of its workflow. -/
theorem hasStem_of_mem_compile (h : w.compile = .ok rules) (hr : r ∈ rules) :
    r.hasStem (Rule.stem w.id) = true := by
  obtain ⟨family, -, name, id⟩ := id_of_mem_compile h hr
  exact Rule.hasStem_iff.mpr ⟨family ++ name, id⟩

/-- A compiled rule is not taken for one written by hand. -/
theorem isManual_eq_false_of_mem_compile (h : w.compile = .ok rules) (hr : r ∈ rules) :
    r.isManual = false :=
  Rule.isManual_eq_false_of_hasStem (hasStem_of_mem_compile h hr)

end Workflow

namespace Store

open Fallible
open Rule (Rewritten workflowStem isManual isManual_eq_false isManual_eq_false_of_hasStem)

variable {s s' : Store} {n : Nat}

/-- Carry out an operation. One that fails gives no store. -/
def perform (s : Store) : Operation → Except SyncError Store
  | .upsert w => .ok (s.upsert w)
  | .delete id => .ok (s.delete id)
  | .syncAll => s.syncAll.map Prod.fst
  | .syncWorkflow id enabled => (s.syncWorkflow id enabled).map Prod.fst
  | .setFault fault? => .ok { s with fault? }

/-- What an operation leaves. After one that fails the store is what it was. -/
def after (s : Store) (op : Operation) : Store :=
  match s.perform op with
  | .ok s' => s'
  | .error _ => s

/-- What a run of operations leaves. -/
def run (s : Store) (ops : List Operation) : Store :=
  ops.foldl after s

theorem compileOne_eq_ok {w : Workflow} {rules : List Rule} :
    compileOne w = .ok rules ↔ w.compile = .ok rules := by
  rw [compileOne]
  cases w.compile <;> simp [Except.mapError]

/-- The rules that one workflow is to have are those of what is stored under its id. -/
theorem exists_of_mem_compileFor {id : String} {enabled : Bool} {compiled : List Rule}
    (h : s.compileFor id enabled = .ok compiled) {r : Rule} (hr : r ∈ compiled) :
    ∃ w, s.workflows.get? id = some w ∧ w.compile = .ok compiled := by
  rw [compileFor] at h
  cases hw : s.workflows.get? id with
  | none =>
      simp only [hw, Except.ok.injEq] at h
      simp [← h] at hr
  | some w =>
      simp only [hw] at h
      split at h
      case isTrue => exact ⟨w, rfl, compileOne_eq_ok.mp h⟩
      case isFalse =>
        rw [Except.ok.injEq] at h
        simp [← h] at hr

/-- The rules that all workflows are to have are those of one of them each. -/
theorem exists_of_mem_compileActive {compiled : List Rule}
    (h : s.compileActive = .ok compiled) {r : Rule} (hr : r ∈ compiled) :
    ∃ w ∈ s.workflows.values, ∃ rules, w.compile = .ok rules ∧ r ∈ rules := by
  obtain ⟨lists, hlists, rfl⟩ := map_eq_ok.mp h
  obtain ⟨rules, hrules, hr⟩ := List.mem_flatten.mp hr
  obtain ⟨w, hmem, hw⟩ := exists_of_mem_mapM hlists hrules
  exact ⟨w, (List.mem_filter.mp hmem).1, rules, compileOne_eq_ok.mp hw, hr⟩

theorem isManual_eq_false_of_mem_compileFor {id : String} {enabled : Bool}
    {compiled : List Rule} (h : s.compileFor id enabled = .ok compiled) {r : Rule}
    (hr : r ∈ compiled) : r.isManual = false := by
  obtain ⟨w, -, hw⟩ := exists_of_mem_compileFor h hr
  exact Workflow.isManual_eq_false_of_mem_compile hw hr

theorem isManual_eq_false_of_mem_compileActive {compiled : List Rule}
    (h : s.compileActive = .ok compiled) {r : Rule} (hr : r ∈ compiled) :
    r.isManual = false := by
  obtain ⟨w, -, rules, hw, hr⟩ := exists_of_mem_compileActive h hr
  exact Workflow.isManual_eq_false_of_mem_compile hw hr

/-- Synchronising all workflows succeeds exactly when they compile and the rules can be
written. -/
theorem syncAll_eq_ok : s.syncAll = .ok (s', n) ↔ ∃ compiled,
    s.compileActive = .ok compiled ∧ s.replaceRules workflowStem compiled = .ok s' ∧
      n = compiled.length := by
  simp only [syncAll, bind_eq_ok, pure_eq_ok, Prod.mk.injEq]
  constructor
  · rintro ⟨compiled, hc, s', hs, same, hn⟩
    exact ⟨compiled, hc, same ▸ hs, hn.symm⟩
  · rintro ⟨compiled, hc, hs, hn⟩
    exact ⟨compiled, hc, s', hs, rfl, hn.symm⟩

/-- Replacing the rules under a stem drops no rule written by hand, if no such rule is
under the stem. -/
theorem rewritten_replaceRules {stem : String} {compiled : List Rule}
    (h : s.replaceRules stem compiled = .ok s')
    (reach : ∀ r : Rule, r.hasStem stem = true → r.isManual = false)
    (ours : ∀ r ∈ compiled, r.isManual = false) : Rewritten s.rules s'.rules := by
  obtain ⟨-, rfl⟩ := replaceRules_eq_ok.mp h
  refine ⟨_, compiled, rfl, List.filter_sublist, ?_, ours⟩
  rw [List.filter_filter]
  apply List.filter_congr
  intro r _
  cases manual : r.isManual with
  | false => rfl
  | true =>
      have apart : r.hasStem stem = false := by
        rw [← Bool.not_eq_true]
        intro under
        rw [reach r under] at manual
        cases manual
      simp [apart]

/-- One operation rewrites the rules. -/
theorem rewritten_perform {op : Operation} (h : s.perform op = .ok s') :
    Rewritten s.rules s'.rules := by
  cases op with
  | upsert w =>
      cases h
      exact .refl s.rules
  | delete id =>
      cases h
      exact .refl s.rules
  | syncAll =>
      obtain ⟨⟨s', n⟩, hsync, rfl⟩ := map_eq_ok.mp h
      obtain ⟨compiled, hcompiled, replaced, -⟩ := syncAll_eq_ok.mp hsync
      apply rewritten_replaceRules replaced
      · exact fun r stem => by rw [isManual, stem, Bool.not_true]
      · exact fun r hr => isManual_eq_false_of_mem_compileActive hcompiled hr
  | syncWorkflow id enabled =>
      obtain ⟨⟨s', n⟩, hsync, rfl⟩ := map_eq_ok.mp h
      obtain ⟨compiled, hcompiled, fault, same, -⟩ := syncWorkflow_eq_ok.mp hsync
      apply rewritten_replaceRules (replaceRules_eq_ok.mpr ⟨fault, same⟩)
      · exact fun r => isManual_eq_false_of_hasStem
      · exact fun r hr => isManual_eq_false_of_mem_compileFor hcompiled hr
  | setFault fault? =>
      cases h
      exact .refl s.rules

theorem rewritten_after (s : Store) (op : Operation) : Rewritten s.rules (s.after op).rules := by
  rw [after]
  split
  case h_1 s' h => exact rewritten_perform h
  case h_2 => exact .refl s.rules

theorem rewritten_run (s : Store) (ops : List Operation) :
    Rewritten s.rules (s.run ops).rules := by
  induction ops generalizing s with
  | nil => exact .refl s.rules
  | cons op ops ih => exact (rewritten_after s op).trans (ih (s.after op))

/-- Rules written by hand survive every run, whichever operations fail: the same ones are
there after it, in the same order and as often. The rules behind those that were kept were
added during the run, and their ids begin with the stem of all workflows. As a part of a run
is a run, this holds at every point. -/
theorem run_keeps_manual (s : Store) (ops : List Operation) :
    (s.run ops).rules.filter isManual = s.rules.filter isManual ∧
      ∃ kept added, (s.run ops).rules = kept ++ added ∧ kept.Sublist s.rules ∧
        ∀ r ∈ added, ∃ rest, r.id = "wf-" ++ rest := by
  have rewritten := rewritten_run s ops
  refine ⟨rewritten.filter_eq, ?_⟩
  obtain ⟨kept, added, same, sub, -, ours⟩ := rewritten
  exact ⟨kept, added, same, sub, fun r hr => isManual_eq_false.mp (ours r hr)⟩

end Store

end TicketFlow
