import TicketFlow.Time.Text
import TicketFlow.Workflow.Basic

/-!
# Writing workflow documents

The document of a workflow lists its fields in a fixed order. A field that may
be absent is left out when it is: an optional text or number that is not there,
and in most places an empty list. Conditions always show their operand, actions
only one that is not `null`.
-/

namespace TicketFlow

namespace Value

/-- A field with a text. -/
def textEntry (name text : String) : String × Value :=
  (name, .string text)

/-- A field that is left out without content. -/
def optionEntry (name : String) (content : Option Value) : List (String × Value) :=
  (content.map fun v => (name, v)).toList

/-- A field that is left out when its list is empty. -/
def listEntry (name : String) (items : List Value) : List (String × Value) :=
  if items.isEmpty then [] else [(name, .array items)]

end Value

open Value

/-- The document of a condition. -/
def Condition.toValue (c : Condition) : Value :=
  .object [textEntry "field" c.field, textEntry "operator" c.operator, ("value", c.value)]

/-- The document of an action. -/
def Action.toValue (a : Action) : Value :=
  let value := match a.value with
    | .null => []
    | v => [("value", v)]
  .object (textEntry "type" a.kind :: value ++ a.extra)

/-- The document of a list of conditions. -/
def Condition.toValues (cs : List Condition) : List Value :=
  cs.map Condition.toValue

/-- The document of a list of actions. -/
def Action.toValues (as : List Action) : List Value :=
  as.map Action.toValue

/-- The document of a payload. -/
def NodeData.toValue : NodeData → Value
  | .trigger d =>
    .object (textEntry "event" d.event :: listEntry "conditions" (Condition.toValues d.conditions))
  | .state d =>
    .object (textEntry "label" d.label ::
      optionEntry "color" (d.color.map .string) ++
      optionEntry "slaMinutes" (d.slaMinutes.map .number) ++
      listEntry "onEnterActions" (Action.toValues d.onEnterActions) ++
      listEntry "mandatoryFields" (d.mandatoryFields.map .string))
  | .condition d =>
    .object [textEntry "logic" d.logic, ("conditions", .array (Condition.toValues d.conditions))]
  | .action d => .object [("actions", .array (Action.toValues d.actions))]
  | .delay d =>
    .object (textEntry "type" d.kind ::
      optionEntry "minutes" (d.minutes.map .number) ++
      optionEntry "event" (d.event.map .string))
  | .terminal d => .object [textEntry "label" d.label]

/-- The document of a position. -/
def Position.toValue (p : Position) : Value :=
  .object [("x", .number p.x), ("y", .number p.y)]

/-- The document of a node. -/
def Node.toValue (n : Node) : Value :=
  .object [textEntry "id" n.id, textEntry "type" n.type.name, ("data", n.data.toValue),
    ("position", n.position.toValue)]

/-- The document of a transition. -/
def Transition.toValue (t : Transition) : Value :=
  .object ([textEntry "id" t.id, textEntry "fromNodeId" t.source, textEntry "toNodeId" t.target] ++
    optionEntry "label" (t.label.map .string) ++
    optionEntry "branchKey" (t.branchKey.map .string) ++
    listEntry "conditions" (Condition.toValues t.conditions) ++
    listEntry "actions" (Action.toValues t.actions))

/-- The document of a timestamp. -/
def Timestamp.toValue (t : Timestamp) : Value :=
  .string t.text

/-- The document of a workflow. -/
def Workflow.toValue (w : Workflow) : Value :=
  .object ([textEntry "id" w.id, textEntry "name" w.name,
      ("nodes", .object (w.nodes.entries.map fun e => (e.1, e.2.toValue))),
      ("transitions", .array (w.transitions.map Transition.toValue)),
      textEntry "entryNodeId" w.entryId, ("enabled", .bool w.enabled),
      ("version", .number w.version)] ++
    optionEntry "description" (w.description.map .string) ++
    optionEntry "createdAt" (w.createdAt.map Timestamp.toValue) ++
    optionEntry "updatedAt" (w.updatedAt.map Timestamp.toValue))

end TicketFlow
