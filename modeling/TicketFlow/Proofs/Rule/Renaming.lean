import TicketFlow.Proofs.Rule.Failure
import TicketFlow.Proofs.Rule.Tags
import TicketFlow.Proofs.Workflow.Renaming

/-!
# Rules of renamed workflows

The origins of the rules of a renamed workflow are the renamed origins, in the same order,
and compiling fails on the same times. Two rules with corresponding origins are told apart
by the tags that compiling gives them: what stands between these tags was written by the
author of the workflow, and it is the same.
-/

namespace TicketFlow

namespace Origin

/-- The origin in a renamed workflow. -/
def rename (r : Renaming) : Origin → Origin
  | .entry t => .entry (t.rename r)
  | .move t => .move (t.rename r)
  | .arrival key => .arrival (r key)
  | .deadline key => .deadline (r key)

/-- The conditions on state tags with which the rule with an origin begins. -/
def tagConditions (workflowId : String) (o : Origin) : List Condition :=
  o.place?.toList.map (.standsAt workflowId)

/-- The actions on state tags with which the rule with an origin ends. -/
def tagActions (workflowId : String) : Origin → List Action
  | .entry t => [.enter workflowId t.target]
  | .move t => [.leave workflowId t.source, .enter workflowId t.target]
  | .arrival _ => []
  | .deadline _ => []

/-- Two rules that differ in their ids and in the tags that their origins give them. Of the
conditions and actions, what stands beside these tags is the same. -/
structure Retags (workflowId : String) (r : Renaming) (o : Origin) (before after : Rule) :
    Prop where
  kind : after.kind = before.kind
  name : after.name = before.name
  enabled : after.enabled = before.enabled
  conditions : ∃ authored, before.conditions = o.tagConditions workflowId ++ authored ∧
    after.conditions = (o.rename r).tagConditions workflowId ++ authored
  actions : ∃ authored, before.actions = authored ++ o.tagActions workflowId ∧
    after.actions = authored ++ (o.rename r).tagActions workflowId

end Origin

namespace Workflow

variable (r : Renaming) (w : Workflow)

@[simp] theorem isEntryTransition_rename (t : Transition) :
    (w.rename r).isEntryTransition (t.rename r) = w.isEntryTransition t := by
  simp [isEntryTransition]

@[simp] theorem entersBy_rename (t : Transition) :
    (w.rename r).entersBy (t.rename r) = w.entersBy t := by
  simp [entersBy]

@[simp] theorem movesBy_rename (t : Transition) :
    (w.rename r).movesBy (t.rename r) = w.movesBy t := by
  simp [movesBy]

@[simp] theorem stateAt?_rename (key : String) :
    (w.rename r).stateAt? (r key) = w.stateAt? key := by
  rw [stateAt?, stateAt?, get?_rename, Option.bind_map]
  rfl

theorem stateOrigins_rename (key : String) (n : Node) :
    stateOrigins (r key) (n.rename r) = (stateOrigins key n).map (Origin.rename r) := by
  rw [stateOrigins, stateOrigins, Node.rename_data]
  cases n.data.state? with
  | none => rfl
  | some d =>
      cases silent : d.onEnterActions.isEmpty <;> cases deadline : d.hasDeadline <;>
        simp [silent, deadline, Origin.rename]

/-- A renamed workflow has the renamed origins. -/
theorem origins_rename : (w.rename r).origins = w.origins.map (Origin.rename r) := by
  simp only [origins, rename_transitions, entries_rename, List.filter_map, List.map_append,
    List.map_map, List.map_flatMap, List.flatMap_map, stateOrigins_rename, Function.comp_def,
    entersBy_rename, movesBy_rename]
  rfl

/-- A renamed workflow has rules when the workflow has. -/
theorem exists_compile_rename_iff :
    (∃ rules, (w.rename r).compile = .ok rules) ↔ ∃ rules, w.compile = .ok rules := by
  rw [exists_compile_iff, exists_compile_iff]
  simp

variable {r w}

theorem retags_entry (keyed : w.KeyedById) {t : Transition} {before after : Rule}
    (h : w.IsRuleOf (.entry t) before) (h' : (w.rename r).IsRuleOf (.entry (t.rename r)) after) :
    (Origin.entry t).Retags w.id r before after := by
  obtain ⟨trigger, target, htrigger, htarget, rfl⟩ := h.eq_of_entry keyed
  obtain ⟨trigger', target', htrigger', htarget', rfl⟩ :=
    h'.eq_of_entry (keyedById_rename r keyed)
  -- The node under the new name is the old node but for its id.
  rw [entryTrigger?_rename, htrigger] at htrigger'
  rw [Transition.rename_target, get?_rename, htarget] at htarget'
  cases htrigger'
  cases htarget'
  exact ⟨rfl, rfl, rfl, ⟨_, rfl, rfl⟩, t.actions, rfl, rfl⟩

theorem retags_move (keyed : w.KeyedById) {t : Transition} {before after : Rule}
    (h : w.IsRuleOf (.move t) before) (h' : (w.rename r).IsRuleOf (.move (t.rename r)) after) :
    (Origin.move t).Retags w.id r before after := by
  obtain ⟨source, target, guard, hsource, htarget, hguard, rfl⟩ := h.eq_of_move keyed
  obtain ⟨source', target', guard', hsource', htarget', hguard', rfl⟩ :=
    h'.eq_of_move (keyedById_rename r keyed)
  rw [Transition.rename_source, get?_rename, hsource] at hsource'
  rw [Transition.rename_target, get?_rename, htarget] at htarget'
  cases hsource'
  cases htarget'
  -- The guard of a source does not depend on its id.
  rw [Node.rename_data, Transition.rename_branchKey, hguard] at hguard'
  cases hguard'
  exact ⟨rfl, rfl, rfl, ⟨guard ++ t.conditions, rfl, rfl⟩, t.actions, rfl, rfl⟩

theorem retags_arrival {key : String} {before after : Rule}
    (h : w.IsRuleOf (.arrival key) before)
    (h' : (w.rename r).IsRuleOf (.arrival (r key)) after) :
    (Origin.arrival key).Retags w.id r before after := by
  obtain ⟨d, state, rfl⟩ := h.eq_of_arrival
  obtain ⟨d', state', rfl⟩ := h'.eq_of_arrival
  rw [stateAt?_rename, state] at state'
  cases state'
  have authored : d.onEnterActions = d.onEnterActions ++ [] := (List.append_nil _).symm
  exact ⟨rfl, rfl, rfl, ⟨[], rfl, rfl⟩, d.onEnterActions, authored, authored⟩

theorem retags_deadline {key : String} {before after : Rule}
    (h : w.IsRuleOf (.deadline key) before)
    (h' : (w.rename r).IsRuleOf (.deadline (r key)) after) :
    (Origin.deadline key).Retags w.id r before after := by
  obtain ⟨d, state, hrule⟩ := h
  obtain ⟨d', state', hrule'⟩ := h'
  rw [stateAt?_rename, state] at state'
  cases state'
  obtain ⟨minutes, hours, set, -, hhours, rfl⟩ :=
    (mem_deadlineRule hrule).mp (List.mem_singleton_self before)
  obtain ⟨minutes', hours', set', -, hhours', rfl⟩ :=
    (mem_deadlineRule hrule').mp (List.mem_singleton_self after)
  cases set.symm.trans set'
  cases hhours.symm.trans hhours'
  exact ⟨rfl, rfl, rfl, ⟨[.idleFor hours], rfl, rfl⟩, [.escalate], rfl, rfl⟩

/-- Rules with corresponding origins differ in their tags. -/
theorem IsRuleOf.retags (keyed : w.KeyedById) {o : Origin} {before after : Rule}
    (h : w.IsRuleOf o before) (h' : (w.rename r).IsRuleOf (o.rename r) after) :
    o.Retags w.id r before after := by
  cases o with
  | entry t => exact retags_entry keyed h h'
  | move t => exact retags_move keyed h h'
  | arrival key => exact retags_arrival h h'
  | deadline key => exact retags_deadline h h'

/-- Each rule of a renamed workflow differs from the rule in the same place in its tags. -/
theorem forall₂_retags (keyed : w.KeyedById) {rules rules' : List Rule}
    (h : w.compile = .ok rules) (h' : (w.rename r).compile = .ok rules') :
    List.Forall₂ (fun before after => ∃ o ∈ w.origins, w.IsRuleOf o before ∧
      o.Retags w.id r before after) rules rules' := by
  have related := forall₂_origins keyed h
  have related' := forall₂_origins (keyedById_rename r keyed) h'
  rw [origins_rename, List.forall₂_map_left_iff] at related'
  apply (Fallible.forall₂_of_common related related').imp
  rintro before after ⟨o, mem, rule, rule'⟩
  exact ⟨o, mem, rule, rule.retags keyed rule'⟩

end Workflow

end TicketFlow
