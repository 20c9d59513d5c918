import TicketFlow.Sketch.Rule

/-!
# Compiling sketches into rules

The rules of a sketch are those of a workflow: the entry rules, the rules of the
remaining transitions, then those of the states. Ids and names of rules show
whatever value stands in their place. Compiling goes from left to right and fails
at the first value in the way: a key that cannot serve as one, a series that
cannot be gone through, a bare condition that is to be negated, or minutes that
are no number.
-/

namespace TicketFlow.Sketch

/-- The opposite of an operator; what has no opposite is its own. -/
def negateOperator (operator : Value) : Attempt Value :=
  match operator with
  | .string name => .ok (.string (TicketFlow.Condition.negateOperator name))
  | v => v.asKey

namespace Condition

/-- A condition with the opposite operator. -/
def negate (c : Condition) : Attempt Condition := do
  return { c with operator := ← negateOperator c.operator }

/-- The condition that a ticket carries a tag. -/
def tagged (tag : String) : Condition :=
  ⟨.string "tags", .string "contains", .string tag⟩

/-- The condition that an event occurred. -/
def onEvent (event : Value) : Condition :=
  ⟨.string "event", .string "is", event⟩

/-- The condition that a ticket was idle for a number of minutes. -/
def idleFor (minutes : Value) : Attempt Condition := do
  return ⟨.string "hours_since_updated", .string "greater_than",
    .number (← minutes.minutesToHours)⟩

end Condition

/-- The action that puts a tag on a ticket. -/
def Action.addTag (tag : String) : Action :=
  ⟨.string "add_tag", .string tag, []⟩

/-- The action that takes a tag off a ticket. -/
def Action.removeTag (tag : String) : Action :=
  ⟨.string "remove_tag", .string tag, []⟩

/-- The action that escalates a ticket. -/
def Action.escalate : Action :=
  ⟨.string "escalate", .null, []⟩

/-- The guard of a branch: the parts themselves, each of them negated, or nothing
for a branch that is neither a yes nor a no. -/
def branchGuard (conditions : Series Condition) (branchKey : Value) :
    Attempt (List (Part Condition)) := do
  let branch ← branchKey.asKey
  if yesBranches.any branch.isText then conditions.parts
  else if noBranches.any branch.isText then
    (← conditions.parts).mapM fun part => do return .read (← (← part.item).negate)
  else return []

/-- The guard of the transitions that leave a delay. -/
def delayGuard (kind minutes event : Value) : Attempt (List (Part Condition)) := do
  if kind.isText "time" && minutes.isSet then return [.read (← Condition.idleFor minutes)]
  else if kind.isText "event" && event.isSet then return [.read (.onEvent event)]
  else return []

namespace Payload

/-- What the source of a transition adds to the guard of its rule. -/
def exitGuard (data : Payload) (branchKey : Value) : Attempt (List (Part Condition)) :=
  match data with
  | .condition _ conditions => branchGuard conditions branchKey
  | .delay kind minutes event => delayGuard kind minutes event
  | _ => .ok []

/-- The kind of the rules of the transitions that leave a node. -/
def exitKind : Payload → RuleKind
  | .delay kind _ _ => if kind.isText "time" then .automation else .trigger
  | _ => .trigger

end Payload

/-- The tag of the tickets that stand at a node of a sketch. -/
def tag (g : Sketch) (n : Node) : String :=
  stateTag g.id.display n.id.display

/-- A rule of a sketch. It is enabled when the sketch is. -/
def rule (g : Sketch) (suffix : String) (kind : RuleKind) (title : String)
    (conditions : List (Part Condition)) (actions : List (Part Action)) : Rule :=
  ⟨.string (TicketFlow.Rule.makeId g.id.display suffix), kind,
    .string ("[WF] " ++ g.name.display ++ ": " ++ title), g.enabled, conditions, actions⟩

/-- The rule of a transition that leaves the trigger at the entry. -/
def entryRule (g : Sketch) (event : Value) (conditions : Series Condition) (t : Transition) :
    Attempt (Option Rule) := do
  match ← g.node? t.target with
  | none => return none
  | some target =>
    let occurred := if event.isSet then [Part.read (.onEvent event)] else []
    return some (g.rule ("entry-" ++ t.id.display) .trigger ("Entry → " ++ target.title)
      (occurred ++ (← conditions.parts) ++ t.conditions.map .read)
      (t.actions.map .read ++ [.read (.addTag (g.tag target))]))

/-- The rule of a transition, if both of its ends resolve. -/
def transitionRule (g : Sketch) (t : Transition) : Attempt (Option Rule) := do
  match ← g.node? t.source, ← g.node? t.target with
  | some source, some target =>
    let guard ← source.data.exitGuard t.branchKey
    return some (g.rule ("t-" ++ t.id.display) source.data.exitKind
      (source.title ++ " → " ++ target.title)
      (.read (.tagged (g.tag source)) :: guard ++ t.conditions.map .read)
      (t.actions.map .read ++
        [.read (.removeTag (g.tag source)), .read (.addTag (g.tag target))]))
  | _, _ => return none

/-- The rule that runs the actions on entering a state, if it has any. -/
def enterRule (g : Sketch) (n : Node) (label : Value) (actions : Series Action) :
    Attempt (List Rule) := do
  if actions.isSet then
    return [g.rule ("enter-" ++ n.id.display) .trigger ("Enter " ++ label.display)
      [.read (.tagged (g.tag n))] (← actions.parts)]
  else return []

/-- The rule that escalates a ticket that stays too long, if the state has a deadline. -/
def deadlineRule (g : Sketch) (n : Node) (label slaMinutes : Value) : Attempt (List Rule) := do
  if slaMinutes.isSet then
    return [g.rule ("sla-" ++ n.id.display) .sla ("SLA breach for " ++ label.display)
      [.read (.tagged (g.tag n)), .read (← Condition.idleFor slaMinutes)] [.read .escalate]]
  else return []

/-- The rules of a node; only states have any. -/
def nodeRules (g : Sketch) (n : Node) : Attempt (List Rule) :=
  match n.data with
  | .state label _ slaMinutes actions _ => do
    return (← g.enterRule n label actions) ++ (← g.deadlineRule n label slaMinutes)
  | _ => .ok []

/-- The rules of some transitions, as far as they have one. -/
def rulesOf (makeRule : Transition → Attempt (Option Rule)) (transitions : List Transition) :
    Attempt (List Rule) := do
  return (← transitions.mapM makeRule).filterMap fun rule? => rule?

/-- The rules of all transitions, beginning with those that leave a trigger at the
entry. -/
def transitionRules (g : Sketch) : Attempt (List Rule) := do
  match (← g.entry?).map Node.data with
  | some (.trigger event conditions) =>
    let atEntry (t : Transition) : Bool := t.source.same g.entryId
    return (← rulesOf (g.entryRule event conditions) (g.transitions.filter atEntry)) ++
      (← rulesOf g.transitionRule (g.transitions.filter fun t => !atEntry t))
  | _ => rulesOf g.transitionRule g.transitions

/-- The rules of a sketch. -/
def compile (g : Sketch) : Attempt (List Rule) := do
  return (← g.transitionRules) ++ (← g.nodes.values.mapM g.nodeRules).flatten

end TicketFlow.Sketch
