import TicketFlow.Proofs.Store.Run
import TicketFlow.Proofs.Table

/-!
# One workflow at a time or all at once

Synchronising all workflows brings each of them in step: what the rules hold under its
stem is what it compiles to, or nothing if it is switched off or not stored. Synchronising
one workflow with the right switch does the same for this one, and as long as workflow ids
have one length, no operation on another workflow brings it out of step again. Rules whose
workflows are all in step can differ from those of a full synchronisation in their order
only.
-/

namespace TicketFlow

/-- Two lists are permutations of each other if every item lies in a part that both have in
common. -/
theorem perm_of_filter_eq {α : Type} {l l' : List α}
    (h : ∀ a, a ∈ l ∨ a ∈ l' → ∃ p : α → Bool, p a = true ∧ l.filter p = l'.filter p) :
    l.Perm l' := by
  classical
  rw [List.perm_iff_count]
  intro a
  by_cases mem : a ∈ l ∨ a ∈ l'
  · obtain ⟨p, hp, same⟩ := h a mem
    calc l.count a
        = (l.filter p).count a := (List.count_filter hp).symm
      _ = (l'.filter p).count a := by rw [same]
      _ = l'.count a := List.count_filter hp
  · rw [not_or] at mem
    rw [List.count_eq_zero.mpr mem.1, List.count_eq_zero.mpr mem.2]

namespace Rule

/-- No rule is under the stems of two workflow ids of one length. -/
theorem id_eq_of_hasStem {a b : String} (len : a.length = b.length) {r : Rule}
    (ha : r.hasStem (stem a) = true) (hb : r.hasStem (stem b) = true) : a = b := by
  obtain ⟨rest, hrest⟩ := hasStem_iff.mp ha
  obtain ⟨rest', hrest'⟩ := hasStem_iff.mp hb
  have same : stem a ++ rest = stem b ++ rest' := hrest.symm.trans hrest'
  have lists : a.toList ++ ('-' :: rest.toList) = b.toList ++ ('-' :: rest'.toList) := by
    simpa [stem, String.append_assoc] using congrArg String.toList same
  exact String.toList_injective (List.append_inj lists len).1

end Rule

namespace Operation

/-- The workflow id that an operation names. -/
def id? : Operation → Option String
  | .upsert w => some w.id
  | .delete id => some id
  | .syncWorkflow id _ => some id
  | .syncAll => none
  | .setFault _ => none

/-- The operation can change what is stored under an id. -/
def Edits (id : String) : Operation → Prop
  | .upsert w => w.id = id
  | .delete id' => id' = id
  | _ => False

/-- The operation synchronises the workflow with an id, alone or with all others. -/
def Syncs (id : String) : Operation → Prop
  | .syncAll => True
  | .syncWorkflow id' _ => id' = id
  | _ => False

/-- The operation has no bearing on whether rules can be written. -/
def IsInner : Operation → Prop
  | .setFault _ => False
  | _ => True

end Operation

namespace Store

open Fallible
open Rule (Rewritten workflowStem stem isManual hasStem_iff isManual_eq_false_of_hasStem)

variable {s s' : Store} {n : Nat} {id : String} {op : Operation} {ops : List Operation}

/-! ## Runs that succeed -/

/-- Carry out operations one after another, all of which have to succeed. -/
def performAll (s : Store) (ops : List Operation) : Except SyncError Store :=
  ops.foldlM perform s

theorem performAll_cons : s.performAll (op :: ops) = .ok s' ↔
    ∃ next, s.perform op = .ok next ∧ next.performAll ops = .ok s' := by
  rw [performAll, List.foldlM_cons]
  exact bind_eq_ok

theorem performAll_append {later : List Operation} : s.performAll (ops ++ later) = .ok s' ↔
    ∃ next, s.performAll ops = .ok next ∧ next.performAll later = .ok s' := by
  rw [performAll, List.foldlM_append]
  exact bind_eq_ok

/-- What holds of a store and survives each operation of a run holds after the run. -/
theorem performAll_invariant {P : Store → Prop} (h : s.performAll ops = .ok s') (start : P s)
    (step : ∀ op ∈ ops, ∀ s s', s.perform op = .ok s' → P s → P s') : P s' := by
  induction ops generalizing s with
  | nil =>
      cases h
      exact start
  | cons op ops ih =>
      obtain ⟨next, first, rest⟩ := performAll_cons.mp h
      have holds : P next := step op List.mem_cons_self s next first start
      exact ih rest holds fun op mem => step op (List.mem_cons_of_mem _ mem)

theorem rewritten_performAll (h : s.performAll ops = .ok s') : Rewritten s.rules s'.rules :=
  performAll_invariant (P := fun next => Rewritten s.rules next.rules) h (.refl s.rules)
    fun _ _ _ _ first so_far => so_far.trans (rewritten_perform first)

/-! ## The rules under a stem -/

/-- The rules that belong to what is stored under an id: those that it compiles to, or none
if it is switched off. -/
def compileActive? (w? : Option Workflow) : Except SyncError (List Rule) :=
  match w? with
  | some w => if w.enabled then compileOne w else .ok []
  | none => .ok []

/-- The rules under the stem of a workflow are those that belong to it. -/
def InStep (s : Store) (id : String) : Prop :=
  compileActive? (s.workflows.get? id) = .ok (s.rules.filter fun r => r.hasStem (stem id))

/-- The rules of a store, which can be written, are written by hand or stand under the stem
of one of some ids, among which are those of the workflows. -/
structure Covered (ids : Set String) (s : Store) : Prop where
  writable : s.fault? = none
  keyed : ∀ e ∈ s.workflows.entries, e.2.id = e.1
  stored : ∀ key ∈ s.workflows.keys, key ∈ ids
  owned : ∀ r ∈ s.rules, r.isManual = true ∨ ∃ id ∈ ids, r.hasStem (stem id) = true

/-- A switch that agrees with the stored workflow changes nothing. -/
theorem compileFor_eq {enabled : Bool}
    (agrees : ∀ w, s.workflows.get? id = some w → w.enabled = enabled) :
    s.compileFor id enabled = compileActive? (s.workflows.get? id) := by
  rw [compileFor]
  cases hw : s.workflows.get? id with
  | none => rfl
  | some w => rw [← agrees w hw, compileActive?]

namespace Covered

variable {ids : Set String} {len : Nat}

theorem id_of_get? (h : Covered ids s) {w : Workflow} (hw : s.workflows.get? id = some w) :
    w.id = id :=
  h.keyed _ (Table.get?_eq_some_iff.mp hw)

/-- The rules that a synchronisation of one workflow adds stand under its stem. -/
theorem hasStem_of_mem_compileFor (h : Covered ids s) {enabled : Bool} {compiled : List Rule}
    (hc : s.compileFor id enabled = .ok compiled) {r : Rule} (hr : r ∈ compiled) :
    r.hasStem (stem id) = true := by
  obtain ⟨w, hw, compiles⟩ := exists_of_mem_compileFor hc hr
  exact h.id_of_get? hw ▸ Workflow.hasStem_of_mem_compile compiles hr

/-- The rules that a full synchronisation adds stand under the stems of stored workflows. -/
theorem exists_hasStem_of_mem_compileActive (h : Covered ids s) {compiled : List Rule}
    (hc : s.compileActive = .ok compiled) {r : Rule} (hr : r ∈ compiled) :
    ∃ id ∈ ids, r.hasStem (stem id) = true := by
  obtain ⟨w, hw, rules, compiles, hr⟩ := exists_of_mem_compileActive hc hr
  obtain ⟨key, entry⟩ := Table.mem_values_iff.mp hw
  have known : key ∈ ids :=
    h.stored key (Table.mem_keys_iff.mpr ⟨w, Table.get?_eq_some_iff.mpr entry⟩)
  exact ⟨w.id, h.keyed _ entry ▸ known, Workflow.hasStem_of_mem_compile compiles hr⟩

theorem replaceRules (h : Covered ids s) {under : String} {compiled : List Rule}
    (hs : s.replaceRules under compiled = .ok s')
    (ours : ∀ r ∈ compiled, ∃ id ∈ ids, r.hasStem (stem id) = true) : Covered ids s' := by
  obtain ⟨-, rfl⟩ := replaceRules_eq_ok.mp hs
  refine ⟨h.writable, h.keyed, h.stored, fun r hr => ?_⟩
  rcases List.mem_append.mp hr with hr | hr
  · exact h.owned r (List.mem_filter.mp hr).1
  · exact .inr (ours r hr)

/-- An operation that names only ids among those given keeps the rules covered. -/
theorem perform (h : Covered ids s) (hs : s.perform op = .ok s') (inner : op.IsInner)
    (named : ∀ id ∈ op.id?, id ∈ ids) : Covered ids s' := by
  cases op with
  | upsert w =>
      cases hs
      refine ⟨h.writable, fun e he => ?_, fun key hkey => ?_, h.owned⟩
      · rcases Table.mem_entries_of_insert he with rfl | he
        · rfl
        · exact h.keyed e he
      · rw [upsert, Table.mem_keys_iff] at hkey
        simp only [Table.get?_insert] at hkey
        split at hkey
        case isTrue same => exact same ▸ named w.id rfl
        case isFalse => exact h.stored key (Table.mem_keys_iff.mpr hkey)
  | delete id =>
      cases hs
      refine ⟨h.writable, fun e he => h.keyed e (List.mem_filter.mp he).1, fun key hkey => ?_,
        h.owned⟩
      rw [delete, Table.mem_keys_iff] at hkey
      simp only [Table.get?_erase] at hkey
      split at hkey
      case isTrue => simp at hkey
      case isFalse => exact h.stored key (Table.mem_keys_iff.mpr hkey)
  | syncAll =>
      obtain ⟨⟨s', n⟩, hsync, rfl⟩ := map_eq_ok.mp hs
      obtain ⟨compiled, hcompiled, replaced, -⟩ := syncAll_eq_ok.mp hsync
      exact h.replaceRules replaced
        fun r hr => h.exists_hasStem_of_mem_compileActive hcompiled hr
  | syncWorkflow id enabled =>
      obtain ⟨⟨s', n⟩, hsync, rfl⟩ := map_eq_ok.mp hs
      obtain ⟨compiled, hcompiled, fault, same, -⟩ := syncWorkflow_eq_ok.mp hsync
      exact h.replaceRules (replaceRules_eq_ok.mpr ⟨fault, same⟩)
        fun r hr => ⟨id, named id rfl, h.hasStem_of_mem_compileFor hcompiled hr⟩
  | setFault fault? => exact inner.elim

end Covered

/-! ## Coming into step and staying there -/

/-- Whether a workflow is in step depends on what is stored under its id and on the rules
under its stem. -/
theorem InStep.congr (h : s.InStep id) (stored : s'.workflows.get? id = s.workflows.get? id)
    (rules : s'.rules.filter (fun r => r.hasStem (stem id)) =
      s.rules.filter fun r => r.hasStem (stem id)) : s'.InStep id := by
  rw [InStep, stored, rules]
  exact h

/-- Replacing the rules under one stem by others leaves, under it, those others. -/
theorem filter_replaced {compiled : List Rule}
    (ours : ∀ r ∈ compiled, r.hasStem (stem id) = true) (rules : List Rule) :
    (rules.filter (fun r => !r.hasStem (stem id)) ++ compiled).filter
      (fun r => r.hasStem (stem id)) = compiled := by
  rw [List.filter_append, List.filter_filter, List.filter_eq_self.mpr ours,
    List.filter_eq_nil_iff.mpr (by simp), List.nil_append]

/-- A synchronisation of one workflow with the right switch brings it in step. -/
theorem inStep_syncWorkflow {ids : Set String} (h : Covered ids s) {enabled : Bool}
    (hs : s.syncWorkflow id enabled = .ok (s', n))
    (agrees : ∀ w, s.workflows.get? id = some w → w.enabled = enabled) : s'.InStep id := by
  obtain ⟨compiled, hcompiled, -, rfl, -⟩ := syncWorkflow_eq_ok.mp hs
  have under : ∀ r ∈ compiled, r.hasStem (stem id) = true :=
    fun r hr => h.hasStem_of_mem_compileFor hcompiled hr
  rw [InStep, filter_replaced under, ← hcompiled, compileFor_eq agrees]

/-- What no operation under an id edits stays what it was. -/
theorem get?_perform (hs : s.perform op = .ok s') (other : ¬op.Edits id) :
    s'.workflows.get? id = s.workflows.get? id := by
  cases op with
  | upsert w =>
      cases hs
      exact (Table.get?_insert ..).trans (if_neg other)
  | delete id' =>
      cases hs
      exact (Table.get?_erase ..).trans (if_neg other)
  | syncAll =>
      obtain ⟨⟨s', n⟩, hsync, rfl⟩ := map_eq_ok.mp hs
      obtain ⟨compiled, -, replaced, -⟩ := syncAll_eq_ok.mp hsync
      obtain ⟨-, rfl⟩ := replaceRules_eq_ok.mp replaced
      rfl
  | syncWorkflow id' enabled =>
      obtain ⟨⟨s', n⟩, hsync, rfl⟩ := map_eq_ok.mp hs
      obtain ⟨compiled, -, -, rfl, -⟩ := syncWorkflow_eq_ok.mp hsync
      rfl
  | setFault fault? =>
      cases hs
      rfl

/-- Among ids of one length, an operation on another workflow leaves the rules under a stem
alone. -/
theorem filter_perform {ids : Set String} (h : Covered ids s) (hs : s.perform op = .ok s')
    (len : ∀ id' ∈ op.id?, id'.length = id.length) (other : ¬op.Syncs id) :
    s'.rules.filter (fun r => r.hasStem (stem id)) =
      s.rules.filter fun r => r.hasStem (stem id) := by
  cases op with
  | upsert w => cases hs; rfl
  | delete id' => cases hs; rfl
  | syncAll => exact absurd trivial other
  | syncWorkflow id' enabled =>
      obtain ⟨⟨s', n⟩, hsync, rfl⟩ := map_eq_ok.mp hs
      obtain ⟨compiled, hcompiled, -, rfl, -⟩ := syncWorkflow_eq_ok.mp hsync
      have apart : ∀ r : Rule, r.hasStem (stem id') = true → r.hasStem (stem id) = false := by
        intro r under
        rw [← Bool.not_eq_true]
        exact fun both => other (Rule.id_eq_of_hasStem (len id' rfl) under both)
      have added : compiled.filter (fun r => r.hasStem (stem id)) = [] := by
        rw [List.filter_eq_nil_iff]
        intro r hr
        rw [apart r (h.hasStem_of_mem_compileFor hcompiled hr)]
        exact Bool.false_ne_true
      rw [List.filter_append, added, List.append_nil, List.filter_filter]
      apply List.filter_congr
      intro r _
      cases under : r.hasStem (stem id') with
      | true => rw [apart r under, Bool.false_and]
      | false => rw [Bool.not_false, Bool.and_true]
  | setFault fault? => cases hs; rfl

/-- A workflow stays in step under the operations that neither edit nor synchronise it. -/
theorem InStep.perform {ids : Set String} (h : s.InStep id) (covered : Covered ids s)
    (hs : s.perform op = .ok s') (len : ∀ id' ∈ op.id?, id'.length = id.length)
    (syncs : ¬op.Syncs id) (edits : ¬op.Edits id) : s'.InStep id :=
  h.congr (get?_perform hs edits) (filter_perform covered hs len syncs)

/-- Of the rules of a workflow, all are under the stem of its own id and none under that of
another id of the same length. -/
theorem filter_compiled {w : Workflow} {rules : List Rule} (h : compileOne w = .ok rules)
    (len : w.id.length = id.length) :
    rules.filter (fun r => r.hasStem (stem id)) = if w.id = id then rules else [] := by
  have own : ∀ r ∈ rules, r.hasStem (stem w.id) = true :=
    fun r hr => Workflow.hasStem_of_mem_compile (compileOne_eq_ok.mp h) hr
  split
  case isTrue same => exact List.filter_eq_self.mpr (same ▸ own)
  case isFalse other =>
    exact List.filter_eq_nil_iff.mpr fun r hr under =>
      other (Rule.id_eq_of_hasStem len (own r hr) under)

/-- Of the rules that all workflows compile to, those under a stem belong to what is stored
under its id. -/
theorem compileActive?_lookup {l : List (String × Workflow)} (nodup : (l.map Prod.fst).Nodup)
    (keyed : ∀ e ∈ l, e.2.id = e.1) (len : ∀ e ∈ l, e.1.length = id.length)
    {lists : List (List Rule)}
    (h : List.Forall₂ (fun w rules => compileOne w = .ok rules)
      ((l.map Prod.snd).filter Workflow.enabled) lists) :
    compileActive? (Table.lookup id l) =
      .ok (lists.flatten.filter fun r => r.hasStem (stem id)) := by
  induction l generalizing lists with
  | nil =>
      cases h
      rfl
  | cons e l ih =>
      obtain ⟨key, w⟩ := e
      obtain ⟨absent, distinct⟩ := List.nodup_cons.mp nodup
      obtain ⟨own, keyed_rest⟩ := List.forall_mem_cons.mp keyed
      obtain ⟨hlen, len_rest⟩ := List.forall_mem_cons.mp len
      obtain rfl : w.id = key := own
      rw [Table.lookup]
      cases on : w.enabled with
      | true =>
          rw [List.map_cons, List.filter_cons_of_pos on] at h
          cases h with
          | @cons _ rules _ lists compiles rest =>
              have others := ih distinct keyed_rest len_rest rest
              rw [List.flatten_cons, List.filter_append, filter_compiled compiles hlen]
              split
              case isTrue same =>
                rw [Table.lookup_eq_none_of_not_mem (same ▸ absent)] at others
                rw [← Except.ok.inj others, List.append_nil, compileActive?, if_pos on, compiles]
              case isFalse => rw [List.nil_append, others]
      | false =>
          rw [List.map_cons, List.filter_cons_of_neg (by simp [on])] at h
          have others := ih distinct keyed_rest len_rest h
          split
          case isTrue same =>
            rw [Table.lookup_eq_none_of_not_mem (same ▸ absent)] at others
            rw [← others, compileActive?, on]
            rfl
          case isFalse => exact others

/-- A full synchronisation brings every workflow in step. -/
theorem inStep_syncAll {ids : Set String} (h : Covered ids s)
    (len : ∀ id' ∈ ids, id'.length = id.length) (hs : s.syncAll = .ok (s', n)) :
    s'.InStep id := by
  obtain ⟨compiled, hcompiled, replaced, -⟩ := syncAll_eq_ok.mp hs
  obtain ⟨-, rfl⟩ := replaceRules_eq_ok.mp replaced
  obtain ⟨lists, hlists, rfl⟩ := map_eq_ok.mp hcompiled
  have keys : ∀ e ∈ s.workflows.entries, e.1.length = id.length := fun e he =>
    len e.1 (h.stored e.1 (List.mem_map_of_mem he))
  have dropped : (s.rules.filter fun r => !r.hasStem workflowStem).filter
      (fun r => r.hasStem (stem id)) = [] := by
    rw [List.filter_filter, List.filter_eq_nil_iff]
    intro r _ both
    obtain ⟨under, manual⟩ := Bool.and_eq_true_iff.mp both
    exact Bool.false_ne_true ((isManual_eq_false_of_hasStem under).symm.trans manual)
  rw [InStep, List.filter_append, dropped, List.nil_append]
  exact compileActive?_lookup s.workflows.nodup_keys h.keyed keys (mapM_eq_ok.mp hlists)

/-- When all workflows are in step they can be synchronised. -/
theorem exists_syncAll {ids : Set String} (h : Covered ids s) (inStep : ∀ id ∈ ids, s.InStep id) :
    ∃ s' n, s.syncAll = .ok (s', n) := by
  have each : ∀ w ∈ s.active, ∃ rules, compileOne w = .ok rules := by
    intro w hw
    obtain ⟨stored, on⟩ := List.mem_filter.mp hw
    obtain ⟨key, entry⟩ := Table.mem_values_iff.mp stored
    have found : s.workflows.get? key = some w := Table.get?_eq_some_iff.mpr entry
    have current := inStep key (h.stored key (Table.mem_keys_iff.mpr ⟨w, found⟩))
    rw [InStep, found, compileActive?, if_pos on] at current
    exact ⟨_, current⟩
  obtain ⟨lists, hlists⟩ := exists_mapM_eq_ok.mpr each
  have compiled : s.compileActive = .ok lists.flatten := map_eq_ok.mpr ⟨lists, hlists, rfl⟩
  exact ⟨_, _, syncAll_eq_ok.mpr ⟨_, compiled, replaceRules_eq_ok.mpr ⟨h.writable, rfl⟩, rfl⟩⟩

/-- Rules of which each workflow has the same ones under its stem, and the same ones written
by hand in one order, differ in their order only. -/
theorem perm_of_inStep {ids : Set String} (h : Covered ids s) (h' : Covered ids s')
    (inStep : ∀ id ∈ ids, s.InStep id) (inStep' : ∀ id ∈ ids, s'.InStep id)
    (workflows : s'.workflows = s.workflows)
    (manual : s'.rules.filter isManual = s.rules.filter isManual) : s.rules.Perm s'.rules := by
  refine perm_of_filter_eq fun r mem => ?_
  have owned : r.isManual = true ∨ ∃ id ∈ ids, r.hasStem (stem id) = true :=
    mem.elim (h.owned r) (h'.owned r)
  rcases owned with byHand | ⟨id, hid, under⟩
  · exact ⟨isManual, byHand, manual.symm⟩
  · have one := inStep id hid
    have other := inStep' id hid
    rw [InStep, workflows] at other
    exact ⟨fun r => r.hasStem (stem id), under, Except.ok.inj (one.symm.trans other)⟩

/-! ## Runs -/

/-- In a run that leads to a store, the last synchronisation of a workflow is behind every
edit of it, and if it is that of this workflow alone, its switch is that of the workflow, if
one is stored in the end. -/
def LastSynced (ops : List Operation) (s : Store) (id : String) : Prop :=
  ∃ before last after, ops = before ++ last :: after ∧ last.Syncs id ∧
    (∀ op ∈ after, ¬op.Syncs id ∧ ¬op.Edits id) ∧
    ∀ enabled, last = .syncWorkflow id enabled →
      ∀ w, s.workflows.get? id = some w → w.enabled = enabled

theorem Covered.performAll {ids : Set String} (h : Covered ids s)
    (hs : s.performAll ops = .ok s') (inner : ∀ op ∈ ops, op.IsInner)
    (named : ∀ op ∈ ops, ∀ id ∈ op.id?, id ∈ ids) : Covered ids s' :=
  performAll_invariant hs h fun op mem _ _ first covered =>
    covered.perform first (inner op mem) (named op mem)

/-- What is stored under an id is not touched by a run without an edit under it. -/
theorem get?_performAll (hs : s.performAll ops = .ok s') (other : ∀ op ∈ ops, ¬op.Edits id) :
    s'.workflows.get? id = s.workflows.get? id :=
  performAll_invariant (P := fun next => next.workflows.get? id = s.workflows.get? id) hs rfl
    fun op mem _ _ first so_far => (get?_perform first (other op mem)).trans so_far

/-- A workflow that was synchronised behind the last edit of it is in step after a run on ids
of one length. -/
theorem inStep_performAll {ids : Set String} (h : Covered ids s)
    (hs : s.performAll ops = .ok s') (inner : ∀ op ∈ ops, op.IsInner)
    (named : ∀ op ∈ ops, ∀ id ∈ op.id?, id ∈ ids)
    (len : ∀ id' ∈ ids, id'.length = id.length) (synced : LastSynced ops s' id) :
    s'.InStep id := by
  obtain ⟨before, last, after, rfl, syncs, quiet, agrees⟩ := synced
  obtain ⟨s₁, first, rest⟩ := performAll_append.mp hs
  obtain ⟨s₂, sync, later⟩ := performAll_cons.mp rest
  obtain ⟨innerBefore, innerRest⟩ := List.forall_mem_append.mp inner
  obtain ⟨namedBefore, namedRest⟩ := List.forall_mem_append.mp named
  obtain ⟨innerLast, innerAfter⟩ := List.forall_mem_cons.mp innerRest
  obtain ⟨namedLast, namedAfter⟩ := List.forall_mem_cons.mp namedRest
  have covered₁ : Covered ids s₁ := h.performAll first innerBefore namedBefore
  have covered₂ : Covered ids s₂ := covered₁.perform sync innerLast namedLast
  have inStep : s₂.InStep id := by
    cases last with
    | syncAll =>
        obtain ⟨⟨s₂, n⟩, hsync, rfl⟩ := map_eq_ok.mp sync
        exact inStep_syncAll covered₁ len hsync
    | syncWorkflow id' enabled =>
        obtain rfl : id' = id := syncs
        have stored : s'.workflows.get? id' = s₁.workflows.get? id' := by
          rw [get?_performAll later fun op mem => (quiet op mem).2, get?_perform sync id]
        obtain ⟨⟨s₂, n⟩, hsync, rfl⟩ := map_eq_ok.mp sync
        exact inStep_syncWorkflow covered₁ hsync fun w hw => agrees enabled rfl w (stored ▸ hw)
    | upsert w => exact syncs.elim
    | delete id' => exact syncs.elim
    | setFault fault? => exact syncs.elim
  have both := performAll_invariant (P := fun next => Covered ids next ∧ next.InStep id) later
    ⟨covered₂, inStep⟩ fun op mem _ _ next ⟨covered, current⟩ =>
      ⟨covered.perform next (innerAfter op mem) (namedAfter op mem),
        current.perform covered next (fun id' hid => len id' (namedAfter op mem id' hid))
          (quiet op mem).1 (quiet op mem).2⟩
  exact both.2

/-- Synchronising one workflow at a time comes to the same as synchronising all of them.
Among ids of one length, start with rules written by hand and nothing stored, and store,
remove and synchronise without a failure. If every workflow that was named was synchronised
behind its last edit, with the right switch, a full synchronisation would succeed now and
leave the same rules in some order; before and after it those written by hand are the ones
at the start, in their order. -/
theorem performAll_perm_syncAll {len : Nat} {rules : List Rule}
    (manual : ∀ r ∈ rules, r.isManual = true) (inner : ∀ op ∈ ops, op.IsInner)
    (lengths : ∀ op ∈ ops, ∀ id ∈ op.id?, id.length = len)
    (h : performAll ⟨.empty, rules, none⟩ ops = .ok s)
    (synced : ∀ op ∈ ops, ∀ id ∈ op.id?, LastSynced ops s id) :
    ∃ s' n, s.syncAll = .ok (s', n) ∧ s.rules.Perm s'.rules ∧
      s.rules.filter isManual = rules ∧ s'.rules.filter isManual = rules := by
  let ids : Set String := {id | ∃ op ∈ ops, id ∈ op.id?}
  have named : ∀ op ∈ ops, ∀ id ∈ op.id?, id ∈ ids := fun op mem id hid => ⟨op, mem, hid⟩
  have len_ids : ∀ id ∈ ids, ∀ id' ∈ ids, id'.length = id.length := by
    intro id ⟨op, mem, hid⟩ id' ⟨op', mem', hid'⟩
    rw [lengths op mem id hid, lengths op' mem' id' hid']
  have start : Covered ids ⟨.empty, rules, none⟩ :=
    ⟨rfl, List.forall_mem_nil _, List.forall_mem_nil _, fun r hr => .inl (manual r hr)⟩
  have covered : Covered ids s := start.performAll h inner named
  have inStep : ∀ id ∈ ids, s.InStep id := by
    intro id hid
    obtain ⟨op, mem, names⟩ := hid
    exact inStep_performAll start h inner named (len_ids id ⟨op, mem, names⟩)
      (synced op mem id names)
  obtain ⟨s', n, full⟩ := exists_syncAll covered inStep
  have performed : s.perform .syncAll = .ok s' := map_eq_ok.mpr ⟨_, full, rfl⟩
  have covered' : Covered ids s' := covered.perform performed trivial (by simp [Operation.id?])
  have inStep' : ∀ id ∈ ids, s'.InStep id := fun id hid =>
    inStep_syncAll covered (len_ids id hid) full
  have kept : s.rules.filter isManual = rules := by
    rw [(rewritten_performAll h).filter_eq, List.filter_eq_self.mpr manual]
  have kept' : s'.rules.filter isManual = s.rules.filter isManual :=
    (rewritten_perform performed).filter_eq
  have workflows : s'.workflows = s.workflows := by
    obtain ⟨compiled, -, replaced, -⟩ := syncAll_eq_ok.mp full
    obtain ⟨-, rfl⟩ := replaceRules_eq_ok.mp replaced
    rfl
  exact ⟨s', n, full, perm_of_inStep covered covered' inStep inStep' workflows kept', kept,
    kept'.trans kept⟩

/-- A rule that was written by hand. -/
def byHand : Rule :=
  ⟨"greet", .trigger, "Greet", true, [.onEvent "create"], [⟨"send_notification", .null, []⟩]⟩

/-- Two workflows are stored and synchronised together; then one of them is replaced and
synchronised alone. -/
def errands : List Operation :=
  [.upsert (Workflow.sample "a" "hall"), .upsert (Workflow.sample "b" "hall"), .syncAll,
    .upsert (Workflow.sample "a" "room"), .syncWorkflow "a" true]

/-- The rules of the replaced workflow stand behind those of the other one, but are the same
as after a full synchronisation. -/
theorem errands_perm_syncAll :
    byHand.isManual = true ∧ (∀ op ∈ errands, op.IsInner) ∧
    (∀ op ∈ errands, ∀ id ∈ op.id?, id.length = 1) ∧
    ∃ s, performAll ⟨.empty, [byHand], none⟩ errands = .ok s ∧
      (∀ op ∈ errands, ∀ id ∈ op.id?, LastSynced errands s id) ∧
      ∃ s' n, s.syncAll = .ok (s', n) ∧ s.rules.Perm s'.rules ∧
        s.rules.filter isManual = [byHand] ∧ s'.rules.filter isManual = [byHand] := by
  have manual : byHand.isManual = true := by decide
  have inner : ∀ op ∈ errands, op.IsInner := by simp [errands, Operation.IsInner]
  have names : ∀ op ∈ errands, ∀ id ∈ op.id?, id = "a" ∨ id = "b" := by
    simp [errands, Operation.id?, Workflow.sample]
  have lengths : ∀ op ∈ errands, ∀ id ∈ op.id?, id.length = 1 := by
    intro op mem id hid
    rcases names op mem id hid with rfl | rfl <;> decide
  have switch : ((performAll ⟨.empty, [byHand], none⟩ errands).toOption.bind fun s =>
      (s.workflows.get? "a").map Workflow.enabled) = some true := by decide
  obtain ⟨s, h⟩ : ∃ s, performAll ⟨.empty, [byHand], none⟩ errands = .ok s := ⟨_, rfl⟩
  have on : ∀ w, s.workflows.get? "a" = some w → w.enabled = true := by
    intro w hw
    simpa [h, Except.toOption, hw] using switch
  have alone : LastSynced errands s "a" := by
    refine ⟨errands.take 4, .syncWorkflow "a" true, [], rfl, rfl, List.forall_mem_nil _, ?_⟩
    intro enabled same w hw
    cases same
    exact on w hw
  have together : LastSynced errands s "b" := by
    refine ⟨errands.take 2, .syncAll, errands.drop 3, rfl, trivial, ?_, by simp⟩
    simp [errands, Operation.Syncs, Operation.Edits, Workflow.sample]
  have synced : ∀ op ∈ errands, ∀ id ∈ op.id?, LastSynced errands s id := by
    intro op mem id hid
    rcases names op mem id hid with rfl | rfl
    · exact alone
    · exact together
  refine ⟨manual, inner, lengths, s, h, synced, ?_⟩
  exact performAll_perm_syncAll (by simpa using manual) inner lengths h synced

end Store

end TicketFlow
