import TicketFlow.Proofs.Fallible
import TicketFlow.Rule.Compile

/-!
# The rules of a compiled workflow

Where each rule of a compiled workflow comes from: an entry transition, another
transition with two ends that resolve, or a state. Each statement describes one
function of the compiler completely, so later proofs reason about transitions and
states and do not unfold the compiler.
-/

namespace TicketFlow

open Fallible

namespace NodeData

@[simp] theorem state?_eq_some {data : NodeData} {d : StateData} :
    data.state? = some d ↔ data = .state d := by
  cases data <;> simp [state?]

@[simp] theorem trigger?_eq_some {data : NodeData} {d : TriggerData} :
    data.trigger? = some d ↔ data = .trigger d := by
  cases data <;> simp [trigger?]

end NodeData

namespace Workflow

variable {w : Workflow} {rules : List Rule} {r : Rule} {t : Transition}

theorem entryTrigger?_eq_some {trigger : TriggerData} : w.entryTrigger? = some trigger ↔
    w.entryId ≠ "" ∧ ∃ n, w.nodes.get? w.entryId = some n ∧ n.data = .trigger trigger := by
  rw [entryTrigger?, entry? ]
  split
  · simp_all
  · simp_all [Option.bind_eq_some_iff]

/-- Only a trigger at the entry makes entry transitions of those that leave it. -/
theorem isEntryTransition_of_not_trigger {n : Node} (hn : w.nodes.get? t.source = some n)
    (other : n.data.trigger? = none) : w.isEntryTransition t = false := by
  rw [← Bool.not_eq_true, isEntryTransition, Bool.and_eq_true, Option.isSome_iff_exists,
    beq_iff_eq]
  rintro ⟨⟨trigger, htrigger⟩, source⟩
  obtain ⟨-, n', hn', data⟩ := entryTrigger?_eq_some.mp htrigger
  rw [source, hn', Option.some.injEq] at hn
  rw [← hn, data] at other
  cases other

/-- Compiling succeeds exactly when the moves and the states have rules, and lists
the entry rules first. -/
theorem compile_eq_ok : w.compile = .ok rules ↔ ∃ moves states,
    w.moveRules = .ok moves ∧ w.stateRules = .ok states ∧
      rules = w.entryRules ++ moves ++ states := by
  simp only [compile, bind_eq_ok, pure_eq_ok]
  constructor
  · rintro ⟨moves, hm, states, hs, rfl⟩
    exact ⟨moves, states, hm, hs, rfl⟩
  · rintro ⟨moves, states, hm, hs, rfl⟩
    exact ⟨moves, hm, states, hs, rfl⟩

/-- Compiling succeeds exactly when it does on every move and on every node. -/
theorem exists_compile_eq_ok : (∃ rules, w.compile = .ok rules) ↔
    (∀ t ∈ w.transitions, w.isEntryTransition t = false →
      ∃ rule?, w.transitionRule t = .ok rule?) ∧
    ∀ n ∈ w.nodes.values, ∃ found, w.nodeRules n = .ok found := by
  have moves : (∃ moves, w.moveRules = .ok moves) ↔ ∀ t ∈ w.transitions,
      w.isEntryTransition t = false → ∃ rule?, w.transitionRule t = .ok rule? := by
    simp only [moveRules, map_eq_ok]
    rw [exists_comm]
    simp [exists_mapM_eq_ok]
  have states : (∃ states, w.stateRules = .ok states) ↔
      ∀ n ∈ w.nodes.values, ∃ found, w.nodeRules n = .ok found := by
    simp only [stateRules, map_eq_ok]
    rw [exists_comm]
    simp [exists_mapM_eq_ok]
  rw [← moves, ← states]
  constructor
  · rintro ⟨rules, h⟩
    obtain ⟨found, late, hfound, hlate, _⟩ := compile_eq_ok.mp h
    exact ⟨⟨found, hfound⟩, late, hlate⟩
  · rintro ⟨⟨found, hfound⟩, late, hlate⟩
    exact ⟨_, compile_eq_ok.mpr ⟨found, late, hfound, hlate, rfl⟩⟩

theorem mem_entryRules : r ∈ w.entryRules ↔ ∃ trigger, w.entryTrigger? = some trigger ∧
    ∃ t ∈ w.transitions, t.source = w.entryId ∧ w.entryRule trigger t = some r := by
  rw [entryRules]
  cases w.entryTrigger? with
  | none => simp
  | some trigger => simp [outgoing, and_assoc]

theorem mem_moveRules {moves : List Rule} (h : w.moveRules = .ok moves) :
    r ∈ moves ↔ ∃ t ∈ w.transitions, w.isEntryTransition t = false ∧
      w.transitionRule t = .ok (some r) := by
  obtain ⟨found, hfound, rfl⟩ := map_eq_ok.mp h
  rw [List.mem_filterMap]
  constructor
  · rintro ⟨rule?, hmem, rfl⟩
    obtain ⟨t, ht, hrule⟩ := exists_of_mem_mapM hfound hmem
    rw [List.mem_filter] at ht
    exact ⟨t, ht.1, by simpa using ht.2, hrule⟩
  · rintro ⟨t, ht, hentry, hrule⟩
    obtain ⟨rule?, hmem, hsame⟩ := mem_of_mapM hfound
      (List.mem_filter.mpr ⟨ht, by simp [hentry]⟩)
    rw [hrule, Except.ok.injEq] at hsame
    exact ⟨rule?, hmem, hsame.symm⟩

theorem mem_stateRules {states : List Rule} (h : w.stateRules = .ok states) :
    r ∈ states ↔ ∃ n ∈ w.nodes.values, ∃ found, w.nodeRules n = .ok found ∧ r ∈ found := by
  obtain ⟨lists, hlists, rfl⟩ := map_eq_ok.mp h
  rw [List.mem_flatten]
  constructor
  · rintro ⟨found, hmem, hr⟩
    obtain ⟨n, hn, hrules⟩ := exists_of_mem_mapM hlists hmem
    exact ⟨n, hn, found, hrules, hr⟩
  · rintro ⟨n, hn, found, hrules, hr⟩
    obtain ⟨found', hmem, hsame⟩ := mem_of_mapM hlists hn
    rw [hrules, Except.ok.injEq] at hsame
    exact ⟨found', hmem, hsame ▸ hr⟩

/-- The rules of a compiled workflow, by where they come from. -/
theorem mem_compile (h : w.compile = .ok rules) : r ∈ rules ↔
    r ∈ w.entryRules ∨
    (∃ t ∈ w.transitions, w.isEntryTransition t = false ∧ w.transitionRule t = .ok (some r)) ∨
    ∃ n ∈ w.nodes.values, ∃ found, w.nodeRules n = .ok found ∧ r ∈ found := by
  obtain ⟨moves, states, hm, hs, rfl⟩ := compile_eq_ok.mp h
  rw [List.mem_append, List.mem_append, mem_moveRules hm, mem_stateRules hs, or_assoc]

/-- The rules of a node are among those of the workflow. -/
theorem exists_nodeRules (h : w.compile = .ok rules) {n : Node} (hn : n ∈ w.nodes.values) :
    ∃ found, w.nodeRules n = .ok found ∧ ∀ r ∈ found, r ∈ rules := by
  obtain ⟨-, nodes⟩ := exists_compile_eq_ok.mp ⟨rules, h⟩
  obtain ⟨found, hfound⟩ := nodes n hn
  exact ⟨found, hfound, fun r hr => (mem_compile h).mpr (.inr (.inr ⟨n, hn, found, hfound, hr⟩))⟩

theorem entryRule_eq_some {trigger : TriggerData} : w.entryRule trigger t = some r ↔
    ∃ target, w.nodes.get? t.target = some target ∧
      w.rule ("entry-" ++ t.id) .trigger ("Entry → " ++ target.label)
        ((if trigger.event = "" then [] else [.onEvent trigger.event]) ++
          trigger.conditions ++ t.conditions)
        (t.actions ++ [.enter w.id target.id]) = r := by
  simp [entryRule]

/-- A transition has a rule exactly when both ends resolve and the guard of its
source can be compiled. -/
theorem transitionRule_eq_some : w.transitionRule t = .ok (some r) ↔
    ∃ source target guard, w.nodes.get? t.source = some source ∧
      w.nodes.get? t.target = some target ∧ source.data.exitGuard t.branchKey = .ok guard ∧
      w.rule ("t-" ++ t.id) source.data.exitKind (source.label ++ " → " ++ target.label)
        (.standsAt w.id source.id :: guard ++ t.conditions)
        (t.actions ++ [.leave w.id source.id, .enter w.id target.id]) = r := by
  rw [transitionRule]
  cases w.nodes.get? t.source with
  | none => simp
  | some source =>
      cases w.nodes.get? t.target with
      | none => simp
      | some target =>
          simp only [moveRule, map_eq_ok, Option.some.injEq]
          constructor
          · rintro ⟨_, ⟨guard, hguard, rfl⟩, rfl⟩
            exact ⟨source, target, guard, rfl, rfl, hguard, rfl⟩
          · rintro ⟨_, _, guard, rfl, rfl, hguard, rfl⟩
            exact ⟨_, ⟨guard, hguard, rfl⟩, rfl⟩

/-- The rules of a node: those on entering and on missing the deadline of a state. -/
theorem mem_nodeRules {n : Node} {found : List Rule} (h : w.nodeRules n = .ok found) :
    r ∈ found ↔ ∃ d, n.data = .state d ∧
      (r ∈ w.enterRule n.id d ∨ ∃ late, w.deadlineRule n.id d = .ok late ∧ r ∈ late) := by
  rw [nodeRules] at h
  cases hstate : n.data.state? with
  | none =>
      rw [hstate, Except.ok.injEq] at h
      have other : ∀ d, n.data ≠ .state d := fun d hd => by simp [hd, NodeData.state?] at hstate
      simp [← h, other]
  | some d =>
      rw [hstate] at h
      obtain ⟨late, hlate, rfl⟩ := map_eq_ok.mp h
      rw [NodeData.state?_eq_some] at hstate
      simp [hstate, hlate]

theorem mem_enterRule {nodeId : String} {d : StateData} : r ∈ w.enterRule nodeId d ↔
    d.onEnterActions ≠ [] ∧
      r = w.rule ("enter-" ++ nodeId) .trigger ("Enter " ++ d.label) [.standsAt w.id nodeId]
        d.onEnterActions := by
  rw [enterRule]
  split <;> simp_all

theorem mem_deadlineRule {nodeId : String} {d : StateData} {late : List Rule}
    (h : w.deadlineRule nodeId d = .ok late) : r ∈ late ↔
    ∃ minutes hours, d.slaMinutes = some minutes ∧ minutes.isZero = false ∧
      minutes.minutesToHours = .ok hours ∧
      r = w.rule ("sla-" ++ nodeId) .sla ("SLA breach for " ++ d.label)
        [.standsAt w.id nodeId, .idleFor hours] [.escalate] := by
  rw [deadlineRule] at h
  cases hminutes : d.slaMinutes with
  | none => simp_all
  | some minutes =>
      simp only [hminutes] at h
      split at h
      · simp_all
      · obtain ⟨hours, hhours, rfl⟩ := map_eq_ok.mp h
        simp_all

end Workflow

end TicketFlow
