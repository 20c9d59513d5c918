import TicketFlow.Rule.Basic
import TicketFlow.Rule.Hours

/-!
# Compiling workflows into rules

Every transition becomes at most one rule and every state at most two. The rule
of a transition requires the tag of its source and exchanges it for the tag of
its target, so cycles need no care. The transitions that leave a trigger at the
entry are the exception: a ticket that enters has no tag yet, and the guard of
the trigger takes the place of the tag. A transition with an end that does not
resolve has no rule.

`Workflow.compile` lists the entry rules, then the rules of the remaining
transitions, then those of the states, each in the order of the graph.
-/

namespace TicketFlow

namespace Condition

/-- Each operator that has an opposite, with its opposite. -/
def negations : List (String × String) :=
  [("is", "is_not"), ("is_not", "is"), ("equals", "not_equals"), ("not_equals", "equals"),
    ("contains", "not_contains"), ("not_contains", "contains"),
    ("greater_than", "less_than"), ("less_than", "greater_than"),
    ("is_empty", "is_not_empty"), ("is_not_empty", "is_empty"),
    ("in", "not_in"), ("not_in", "in")]

/-- The opposite of an operator; an operator without one is its own. -/
def negateOperator (operator : String) : String :=
  (negations.lookup operator).getD operator

/-- A condition with the opposite operator. -/
def negate (c : Condition) : Condition :=
  { c with operator := negateOperator c.operator }

/-- The condition that a ticket stands at a node. -/
def standsAt (workflowId nodeId : String) : Condition :=
  ⟨"tags", "contains", .string (stateTag workflowId nodeId)⟩

/-- The condition that an event occurred. -/
def onEvent (event : String) : Condition :=
  ⟨"event", "is", .string event⟩

/-- The condition that a ticket was idle for a number of hours. -/
def idleFor (hours : Number) : Condition :=
  ⟨"hours_since_updated", "greater_than", .number hours⟩

end Condition

namespace Action

/-- Put the tag of a node on a ticket. -/
def enter (workflowId nodeId : String) : Action :=
  ⟨"add_tag", .string (stateTag workflowId nodeId), []⟩

/-- Take the tag of a node off a ticket. -/
def leave (workflowId nodeId : String) : Action :=
  ⟨"remove_tag", .string (stateTag workflowId nodeId), []⟩

/-- Escalate a ticket. -/
def escalate : Action :=
  ⟨"escalate", .null, []⟩

end Action

/-- The branch keys that stand for a decision that holds. -/
def yesBranches : List String := ["yes", "true"]

/-- The branch keys that stand for a decision that does not hold. -/
def noBranches : List String := ["no", "false"]

namespace ConditionData

/-- The guard of a branch: the conditions themselves, each of them negated, or
nothing for a branch that is neither a yes nor a no. -/
def branchGuard (d : ConditionData) (branchKey : Option String) : List Condition :=
  match branchKey with
  | none => []
  | some key =>
    if key ∈ yesBranches then d.conditions
    else if key ∈ noBranches then d.conditions.map Condition.negate
    else []

end ConditionData

namespace DelayData

/-- Whether a delay waits for a time. -/
def isTimed (d : DelayData) : Bool :=
  d.kind == "time"

/-- The guard of the transitions that leave a delay. -/
def guard (d : DelayData) : Except CompileError (List Condition) :=
  if d.isTimed then
    match d.minutes with
    | some minutes =>
      if minutes.isZero then .ok []
      else minutes.minutesToHours.map fun hours => [.idleFor hours]
    | none => .ok []
  else if d.kind = "event" then
    match d.event with
    | some event => .ok (if event = "" then [] else [.onEvent event])
    | none => .ok []
  else .ok []

end DelayData

namespace NodeData

/-- What the source of a transition adds to the guard of its rule. -/
def exitGuard (data : NodeData) (branchKey : Option String) :
    Except CompileError (List Condition) :=
  match data with
  | .condition d => .ok (d.branchGuard branchKey)
  | .delay d => d.guard
  | _ => .ok []

/-- The kind of the rules of the transitions that leave a node. Only time that
passes needs an automation. -/
def exitKind : NodeData → RuleKind
  | .delay d => if d.isTimed then .automation else .trigger
  | _ => .trigger

end NodeData

namespace Workflow

/-- A rule of a workflow. It is enabled when the workflow is. -/
def rule (w : Workflow) (suffix : String) (kind : RuleKind) (title : String)
    (conditions : List Condition) (actions : List Action) : Rule :=
  ⟨Rule.makeId w.id suffix, kind, "[WF] " ++ w.name ++ ": " ++ title, w.enabled,
    conditions, actions⟩

/-- The rule of a transition that leaves the trigger at the entry. -/
def entryRule (w : Workflow) (trigger : TriggerData) (t : Transition) : Option Rule :=
  (w.nodes.get? t.target).map fun target =>
    w.rule ("entry-" ++ t.id) .trigger ("Entry → " ++ target.label)
      ((if trigger.event = "" then [] else [.onEvent trigger.event]) ++
        trigger.conditions ++ t.conditions)
      (t.actions ++ [.enter w.id target.id])

/-- The rule of a transition between two nodes. -/
def moveRule (w : Workflow) (t : Transition) (source target : Node) :
    Except CompileError Rule :=
  (source.data.exitGuard t.branchKey).map fun guard =>
    w.rule ("t-" ++ t.id) source.data.exitKind (source.label ++ " → " ++ target.label)
      (.standsAt w.id source.id :: guard ++ t.conditions)
      (t.actions ++ [.leave w.id source.id, .enter w.id target.id])

/-- The rule of a transition, if both of its ends resolve. -/
def transitionRule (w : Workflow) (t : Transition) : Except CompileError (Option Rule) :=
  match w.nodes.get? t.source, w.nodes.get? t.target with
  | some source, some target => (w.moveRule t source target).map some
  | _, _ => .ok none

/-- The rule that runs the actions on entering a state, if it has any. -/
def enterRule (w : Workflow) (nodeId : String) (d : StateData) : List Rule :=
  if d.onEnterActions.isEmpty then []
  else
    [w.rule ("enter-" ++ nodeId) .trigger ("Enter " ++ d.label) [.standsAt w.id nodeId]
      d.onEnterActions]

/-- The rule that escalates a ticket that stays too long, if the state has a deadline. -/
def deadlineRule (w : Workflow) (nodeId : String) (d : StateData) :
    Except CompileError (List Rule) :=
  match d.slaMinutes with
  | none => .ok []
  | some minutes =>
    if minutes.isZero then .ok []
    else
      minutes.minutesToHours.map fun hours =>
        [w.rule ("sla-" ++ nodeId) .sla ("SLA breach for " ++ d.label)
          [.standsAt w.id nodeId, .idleFor hours] [.escalate]]

/-- The rules of a node; only states have any. -/
def nodeRules (w : Workflow) (n : Node) : Except CompileError (List Rule) :=
  match n.data.state? with
  | none => .ok []
  | some d => (w.deadlineRule n.id d).map (w.enterRule n.id d ++ ·)

/-- Whether a transition leaves a trigger at the entry. -/
def isEntryTransition (w : Workflow) (t : Transition) : Bool :=
  w.entryTrigger?.isSome && t.source == w.entryId

/-- The rules of the transitions that leave a trigger at the entry. -/
def entryRules (w : Workflow) : List Rule :=
  match w.entryTrigger? with
  | some trigger => (w.outgoing w.entryId).filterMap (w.entryRule trigger)
  | none => []

/-- The rules of all other transitions. -/
def moveRules (w : Workflow) : Except CompileError (List Rule) :=
  ((w.transitions.filter fun t => !w.isEntryTransition t).mapM w.transitionRule).map
    (·.filterMap fun rule? => rule?)

/-- The rules of all states. -/
def stateRules (w : Workflow) : Except CompileError (List Rule) :=
  (w.nodes.values.mapM w.nodeRules).map List.flatten

/-- The rules of a workflow. -/
def compile (w : Workflow) : Except CompileError (List Rule) := do
  let moves ← w.moveRules
  let states ← w.stateRules
  return w.entryRules ++ moves ++ states

end Workflow

end TicketFlow
