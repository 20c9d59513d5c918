import TicketFlow.Proofs.Fallible
import TicketFlow.Proofs.Sketch.Issues

/-!
# Rules of the sketch of a workflow

Compiling the sketch of a workflow makes the sketches of the rules of the workflow, and
fails where compiling the workflow fails: no value of such a sketch is in the way, so the
only error that is left is the one of a number of hours.
-/

namespace TicketFlow

open Fallible

/-! ## Guards -/

namespace Value

theorem any_isText_string (keys : List String) (key : String) :
    keys.any (string key).isText = decide (key ∈ keys) := by
  rw [Bool.eq_iff_iff, List.any_eq_true, decide_eq_true_iff]
  simp

theorem minutesToHours_number (minutes : Number) :
    (number minutes).minutesToHours = minutes.minutesToHours.mapError .compile := rfl

end Value

theorem Condition.idleFor_sketch (minutes : Number) :
    Sketch.Condition.idleFor (.number minutes) =
      (minutes.minutesToHours.mapError .compile).map fun hours => (idleFor hours).sketch := by
  rw [Sketch.Condition.idleFor, Value.minutesToHours_number]
  cases minutes.minutesToHours <;> rfl

theorem ConditionData.branchGuard_sketch (d : ConditionData) (branchKey : Option String) :
    Sketch.branchGuard (.read (d.conditions.map Condition.sketch)) (.ofOption .string branchKey) =
      .ok ((d.branchGuard branchKey).map fun c => .read c.sketch) := by
  cases branchKey with
  | none => rfl
  | some key =>
      have negated : ((d.conditions.map Condition.sketch).map Sketch.Part.read).mapM
          (fun part => do return Sketch.Part.read (← (← part.item).negate)) =
          (.ok ((d.conditions.map Condition.negate).map fun c => .read c.sketch) :
            Attempt (List (Sketch.Part Sketch.Condition))) := by
        rw [List.map_map, List.map_map]
        exact mapM_map_pure _ _ _ fun c _ => rfl
      have asKey : (Value.ofOption .string (some key)).asKey = .ok (.string key) := rfl
      simp only [Sketch.branchGuard, asKey, ok_bind, Value.any_isText_string, decide_eq_true_iff,
        Sketch.Series.parts, branchGuard]
      by_cases yes : key ∈ yesBranches
      · simp only [yes, if_true, List.map_map]
        rfl
      · by_cases no : key ∈ noBranches
        · simp only [yes, no, if_false, if_true, negated]
        · simp only [yes, no, if_false]
          rfl

theorem DelayData.guard_sketch (d : DelayData) :
    Sketch.delayGuard (.string d.kind) (.ofOption .number d.minutes) (.ofOption .string d.event) =
      (d.guard.mapError .compile).map fun guard => guard.map fun c => .read c.sketch := by
  by_cases timed : d.kind = "time"
  · simp only [Sketch.delayGuard, guard, isTimed, Value.isText_string, timed]
    cases d.minutes with
    | none => rfl
    | some minutes =>
        cases zero : minutes.isZero
        · simp only [Value.isSet_ofOption_number, Option.any_some, zero]
          change (Sketch.Condition.idleFor (.number minutes) >>= _) = _
          rw [Condition.idleFor_sketch]
          cases minutes.minutesToHours <;> rfl
        · simp only [Value.isSet_ofOption_number, Option.any_some, zero]
          rfl
  · have notTimed : (d.kind == "time") = false := beq_false_of_ne timed
    simp only [Sketch.delayGuard, guard, isTimed, Value.isText_string, notTimed,
      Value.isSet_ofOption_string]
    by_cases awaited : d.kind = "event"
    · rw [awaited]
      cases d.event with
      | none => rfl
      | some event =>
          by_cases unset : event = ""
          · rw [unset]
            rfl
          · have set : (event != "") = true := bne_iff_ne.mpr unset
            simp only [Option.any_some, set, if_neg unset]
            rfl
    · simp only [beq_false_of_ne awaited, if_neg awaited]
      rfl

namespace NodeData

@[simp] theorem exitKind_sketch (d : NodeData) : d.sketch.exitKind = d.exitKind := by
  cases d <;> rfl

theorem exitGuard_sketch (d : NodeData) (branchKey : Option String) :
    d.sketch.exitGuard (.ofOption .string branchKey) =
      ((d.exitGuard branchKey).mapError .compile).map fun guard => guard.map fun c =>
        .read c.sketch := by
  cases d with
  | condition d => exact d.branchGuard_sketch branchKey
  | delay d => exact d.guard_sketch
  | _ => rfl

end NodeData

/-! ## Rules -/

namespace Workflow

variable (w : Workflow)

theorem rule_sketch (suffix : String) (kind : RuleKind) (title : String)
    (conditions : List Condition) (actions : List Action) :
    w.sketch.rule suffix kind title (conditions.map fun c => .read c.sketch)
        (actions.map fun a => .read a.sketch) =
      (w.rule suffix kind title conditions actions).sketch := rfl

theorem entryRule_sketch (trigger : TriggerData) (t : Transition) :
    w.sketch.entryRule (.string trigger.event)
        (.read (trigger.conditions.map Condition.sketch)) t.sketch =
      .ok ((w.entryRule trigger t).map Rule.sketch) := by
  rw [Sketch.entryRule, entryRule, Transition.sketch_target, node?_sketch]
  cases w.nodes.get? t.target with
  | none => rfl
  | some target =>
      have occurred : (if (Value.string trigger.event).isSet then
          [Sketch.Part.read (Sketch.Condition.onEvent (.string trigger.event))] else []) =
          (if trigger.event = "" then [] else [Condition.onEvent trigger.event]).map
            fun c => .read c.sketch := by
        rw [Value.isSet_string]
        by_cases silent : trigger.event = ""
        · rw [bne_eq_false_iff_eq.mpr silent, if_pos silent]
          rfl
        · rw [bne_iff_ne.mpr silent, if_neg silent]
          rfl
      simp only [Option.map_some, ← rule_sketch, List.map_append, ← occurred, ok_bind,
        Sketch.Series.parts, Transition.sketch_conditions, Transition.sketch_actions, List.map_map,
        Node.sketch_title]
      rfl

theorem transitionRule_sketch (t : Transition) :
    w.sketch.transitionRule t.sketch =
      ((w.transitionRule t).mapError .compile).map (Option.map Rule.sketch) := by
  rw [Sketch.transitionRule, transitionRule, Transition.sketch_source, Transition.sketch_target,
    node?_sketch, node?_sketch]
  cases w.nodes.get? t.source with
  | none => cases w.nodes.get? t.target <;> rfl
  | some source =>
      cases w.nodes.get? t.target with
      | none => rfl
      | some target =>
          simp only [ok_bind, Option.map_some, Node.sketch_data, Transition.sketch_branchKey,
            NodeData.exitGuard_sketch, moveRule]
          cases source.data.exitGuard t.branchKey with
          | error e => rfl
          | ok guard =>
              simp only [map_ok, mapError_ok, ok_bind, Option.map_some, ← rule_sketch,
                NodeData.exitKind_sketch, Node.sketch_title, Transition.sketch_conditions,
                Transition.sketch_actions, List.map_map, List.map_cons, List.map_append]
              rfl

theorem enterRule_sketch (n : Node) (d : StateData) :
    w.sketch.enterRule n.sketch (.string d.label) (.read (d.onEnterActions.map Action.sketch)) =
      .ok ((w.enterRule n.id d).map Rule.sketch) := by
  rw [Sketch.enterRule, enterRule, Sketch.Series.isSet, List.isEmpty_map]
  cases d.onEnterActions.isEmpty
  · simp only [Sketch.Series.parts, List.map_map]
    rfl
  · rfl

theorem deadlineRule_sketch (n : Node) (d : StateData) :
    w.sketch.deadlineRule n.sketch (.string d.label) (.ofOption .number d.slaMinutes) =
      ((w.deadlineRule n.id d).mapError .compile).map (List.map Rule.sketch) := by
  rw [Sketch.deadlineRule, deadlineRule, Value.isSet_ofOption_number]
  cases d.slaMinutes with
  | none => rfl
  | some minutes =>
      cases zero : minutes.isZero
      · simp only [Option.any_some, zero]
        change (Sketch.Condition.idleFor (.number minutes) >>= _) = _
        rw [Condition.idleFor_sketch]
        cases minutes.minutesToHours <;> rfl
      · simp only [Option.any_some, zero]
        rfl

theorem nodeRules_sketch (n : Node) :
    w.sketch.nodeRules n.sketch =
      ((w.nodeRules n).mapError .compile).map (List.map Rule.sketch) := by
  rw [Sketch.nodeRules, nodeRules, Node.sketch_data]
  cases n.data with
  | state d =>
      simp only [NodeData.sketch, NodeData.state?, enterRule_sketch, ok_bind, deadlineRule_sketch]
      cases w.deadlineRule n.id d with
      | error e => rfl
      | ok rules =>
          simp only [map_ok, mapError_ok, List.map_append]
          rfl
  | _ => rfl

/-! ## All rules -/

theorem rulesOf_entryRule_sketch (trigger : TriggerData) (ts : List Transition) :
    Sketch.rulesOf (w.sketch.entryRule (.string trigger.event)
        (.read (trigger.conditions.map Condition.sketch))) (ts.map Transition.sketch) =
      .ok ((ts.filterMap (w.entryRule trigger)).map Rule.sketch) := by
  rw [Sketch.rulesOf, mapM_map_pure Transition.sketch _ _ fun t _ => w.entryRule_sketch trigger t]
  simp [List.filterMap_map, List.map_filterMap]

theorem rulesOf_transitionRule_sketch (ts : List Transition) :
    Sketch.rulesOf w.sketch.transitionRule (ts.map Transition.sketch) =
      (((ts.mapM w.transitionRule).map fun rules => rules.filterMap fun rule? => rule?).mapError
        .compile).map (List.map Rule.sketch) := by
  rw [Sketch.rulesOf, mapM_map_of_agree w.transitionRule_sketch]
  cases ts.mapM w.transitionRule with
  | error e => rfl
  | ok rules =>
      simp [List.filterMap_map, List.map_filterMap]

/-- Without a trigger at the entry all transitions have rules of the same kind. -/
theorem rulesOf_sketch_of_entryTrigger?_eq_none (none : w.entryTrigger? = none) :
    Sketch.rulesOf w.sketch.transitionRule w.sketch.transitions =
      ((w.moveRules.map (w.entryRules ++ ·)).mapError .compile).map (List.map Rule.sketch) := by
  have all : (w.transitions.filter fun t => !w.isEntryTransition t) = w.transitions := by
    simp [isEntryTransition, none]
  rw [sketch_transitions, rulesOf_transitionRule_sketch, moveRules, all, entryRules, none]
  cases w.transitions.mapM w.transitionRule <;> rfl

theorem transitionRules_sketch :
    w.sketch.transitionRules =
      ((w.moveRules.map (w.entryRules ++ ·)).mapError .compile).map (List.map Rule.sketch) := by
  have noTrigger := w.rulesOf_sketch_of_entryTrigger?_eq_none
  rw [Sketch.transitionRules, entry?_sketch, ok_bind]
  cases entered : entry? w with
  | none => exact noTrigger (by rw [entryTrigger?, entered]; rfl)
  | some n =>
      obtain ⟨id, data, position⟩ := n
      cases data with
      | trigger d =>
          have trigger : w.entryTrigger? = some d := by rw [entryTrigger?, entered]; rfl
          have entries : w.sketch.transitions.filter (fun t => t.source.same w.sketch.entryId) =
              (w.outgoing w.entryId).map Transition.sketch :=
            w.outgoing_sketch w.entryId
          have moves : w.sketch.transitions.filter (fun t => !t.source.same w.sketch.entryId) =
              (w.transitions.filter fun t => !w.isEntryTransition t).map Transition.sketch := by
            simp [List.filter_map, Function.comp_def, isEntryTransition, trigger]
          simp only [Option.map_some, Node.sketch_data, NodeData.sketch, entries, moves,
            rulesOf_entryRule_sketch, rulesOf_transitionRule_sketch, ok_bind, moveRules, entryRules,
            trigger]
          cases (w.transitions.filter fun t => !w.isEntryTransition t).mapM w.transitionRule with
          | error e => rfl
          | ok rules =>
              simp only [map_ok, mapError_ok, List.map_append]
              rfl
      | _ => exact noTrigger (by rw [entryTrigger?, entered]; rfl)

/-- Compiling the sketch of a workflow makes the sketches of the rules of the workflow. -/
theorem compile_sketch :
    w.sketch.compile = (w.compile.mapError .compile).map (List.map Rule.sketch) := by
  rw [Sketch.compile, compile, transitionRules_sketch, values_sketch,
    mapM_map_of_agree w.nodeRules_sketch, stateRules]
  cases w.moveRules with
  | error e => rfl
  | ok moves =>
      cases w.nodes.values.mapM w.nodeRules with
      | error e => rfl
      | ok states =>
          change Except.ok ((w.entryRules ++ moves).map Rule.sketch ++
              (states.map (List.map Rule.sketch)).flatten) =
            Except.ok ((w.entryRules ++ moves ++ states.flatten).map Rule.sketch)
          simp only [List.map_append, List.map_flatten]

end Workflow

/-- A sketch has the same rules whether or not it is taken for a workflow. -/
theorem Sketch.rules_eq_compile (g : Sketch) : g.rules = g.compile := by
  rw [rules]
  split
  · rename_i w found
    rw [workflow?_eq_some_iff.mp found, Workflow.compile_sketch]
  · rfl

end TicketFlow
