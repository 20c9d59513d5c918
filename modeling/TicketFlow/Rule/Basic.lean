import TicketFlow.Workflow.Reader
import TicketFlow.Workflow.Writer

/-!
# Rules

A rule fires on a ticket when all of its conditions hold, and then applies its
actions in order. Rules are flat: where a ticket stands in a workflow is
recorded on the ticket by a tag, and only conditions and actions on tags refer
to it. The ids of the rules of a workflow begin with a stem that is made from
the id of the workflow.
-/

namespace TicketFlow

/-- The kinds of rules that the engine runs. -/
inductive RuleKind where
  | trigger
  | automation
  | sla
deriving DecidableEq, Repr

namespace RuleKind

/-- The name of a kind of rule. -/
def name : RuleKind → String
  | .trigger => "trigger"
  | .automation => "automation"
  | .sla => "sla"

/-- The kind of rule with a name. -/
def ofName? (name : String) : Option RuleKind :=
  [RuleKind.trigger, .automation, .sla].find? fun k => k.name == name

end RuleKind

/-- A rule of the engine. -/
structure Rule where
  id : String
  kind : RuleKind
  name : String
  enabled : Bool
  conditions : List Condition
  actions : List Action

namespace Rule

/-- The document of a rule. -/
def toValue (r : Rule) : Value :=
  .object [Value.textEntry "id" r.id, Value.textEntry "type" r.kind.name,
    Value.textEntry "name" r.name, ("enabled", .bool r.enabled),
    ("conditions", .object [("all", .array (Condition.toValues r.conditions))]),
    ("actions", .array (Action.toValues r.actions))]

/-- Read a rule. Its kind is checked before its conditions and actions. -/
def read (v : Value) : Except ReadError Rule := do
  let id ← v.requireText "id"
  let kindName ← v.requireText "type"
  match RuleKind.ofName? kindName with
  | none => .error (.unknownType kindName)
  | some kind =>
    let name ← v.requireText "name"
    let enabled ← v.require "enabled"
    let guard ← v.require "conditions"
    let _ ← guard.require "all"
    let conditions ← Condition.readList guard "all"
    let _ ← v.require "actions"
    let actions ← Action.readList v "actions"
    return ⟨id, kind, name, enabled.isSet, conditions, actions⟩

/-- What the id of every rule of a workflow begins with. -/
def workflowStem : String := "wf-"

/-- What the ids of the rules of one workflow begin with. -/
def stem (workflowId : String) : String :=
  workflowStem ++ workflowId ++ "-"

/-- The id of a rule of a workflow. -/
def makeId (workflowId suffix : String) : String :=
  stem workflowId ++ suffix

end Rule

/-- The tag of the tickets that stand at a node of a workflow. -/
def stateTag (workflowId nodeId : String) : String :=
  "wf:" ++ workflowId ++ ":state:" ++ nodeId

end TicketFlow
