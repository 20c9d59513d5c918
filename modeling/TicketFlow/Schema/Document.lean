import TicketFlow.Schema.Basic

/-!
# The schema of a workflow document

A workflow document is an object with an id, a name, its nodes by key, its
transitions, and the key of the entry node. What a node's data must look like
depends on the type of the node, so the node schema has one conditional part
for each of the six types. Conditions, actions and transitions admit no unknown
field; documents, nodes, data and positions do.
-/

namespace TicketFlow

/-- The operators of conditions, in ascending order. -/
def conditionOperators : List String :=
  ["changed", "changed_to", "contains", "ends_with", "equals", "greater_than", "in", "is",
    "is_empty", "is_not", "is_not_empty", "less_than", "matches", "not_contains", "not_equals",
    "not_in", "starts_with"]

/-- The further keys that an action can carry, in the order in which they are written. -/
def actionExtraKeys : List String :=
  ["field", "channel", "to", "template", "url", "method", "body"]

/-- The names of the six node types. -/
def nodeTypeNames : List String :=
  ["trigger", "state", "condition", "action", "delay", "end"]

namespace Schema

/-- A text. -/
def text : Schema := .kind .string

/-- A text with at least one character. -/
def filledText : Schema := .both (.kind .string) .nonEmpty

/-- A whole number that is not negative. -/
def count : Schema := .both (.kind .integer) .nonNegative

/-- One of some texts, which is said twice over: as a kind and as a choice. -/
def choice (choices : List String) : Schema := .both (.kind .string) (.oneOf choices)

/-- A single condition. -/
def condition : Schema :=
  .all [.kind .object,
    .field "field" filledText,
    .field "operator" (choice conditionOperators),
    .required "field", .required "operator",
    .closed ["field", "operator", "value"]]

/-- A single action. -/
def action : Schema :=
  .all [.kind .object,
    .field "type" filledText,
    .all (actionExtraKeys.map fun key => .field key text),
    .required "type",
    .closed ("type" :: "value" :: actionExtraKeys)]

/-- A list of conditions. -/
def conditionList : Schema := .both (.kind .array) (.eachItem condition)

/-- A list of actions. -/
def actionList : Schema := .both (.kind .array) (.eachItem action)

/-- The data of a trigger node. -/
def triggerData : Schema :=
  .all [.kind .object, .field "event" text, .field "conditions" conditionList, .required "event"]

/-- The data of a state node. -/
def stateData : Schema :=
  .all [.kind .object, .field "label" text, .field "color" text, .field "slaMinutes" count,
    .field "onEnterActions" actionList,
    .field "mandatoryFields" (.both (.kind .array) (.eachItem text)),
    .required "label"]

/-- The data of a condition node. -/
def conditionData : Schema :=
  .all [.kind .object, .field "logic" (choice ["all", "any"]),
    .field "conditions" conditionList, .required "conditions"]

/-- The data of an action node. -/
def actionData : Schema :=
  .all [.kind .object, .field "actions" actionList]

/-- The data of a delay node. -/
def delayData : Schema :=
  .all [.kind .object, .field "type" (choice ["time", "event"]), .field "minutes" count,
    .field "event" text, .required "type"]

/-- The data of an end node. -/
def endData : Schema :=
  .all [.kind .object, .field "label" text]

/-- The data schema of each node type, in the order of the types. -/
def nodeData : List (String × Schema) :=
  [("trigger", triggerData), ("state", stateData), ("condition", conditionData),
    ("action", actionData), ("delay", delayData), ("end", endData)]

/-- The place of a node on the canvas. -/
def position : Schema :=
  .all [.kind .object, .field "x" (.kind .number), .field "y" (.kind .number),
    .required "x", .required "y"]

/-- A node. Without a type its data is checked against every data schema. -/
def node : Schema :=
  .all [.kind .object,
    .field "id" filledText,
    .field "type" (choice nodeTypeNames),
    .field "data" (.kind .object),
    .field "position" position,
    .required "id", .required "type", .required "data",
    .all (nodeData.map fun d => .whenTag "type" d.1 (.field "data" d.2))]

/-- A transition. -/
def transition : Schema :=
  .all [.kind .object,
    .field "id" filledText,
    .field "fromNodeId" text,
    .field "toNodeId" text,
    .field "label" text,
    .field "branchKey" text,
    .field "conditions" conditionList,
    .field "actions" actionList,
    .required "id", .required "fromNodeId", .required "toNodeId",
    .closed ["id", "fromNodeId", "toNodeId", "label", "branchKey", "conditions", "actions"]]

/-- A whole workflow document. -/
def workflow : Schema :=
  .all [.kind .object,
    .field "id" filledText,
    .field "name" filledText,
    .field "description" text,
    .field "nodes" (.both (.kind .object) (.eachField node)),
    .field "transitions" (.both (.kind .array) (.eachItem transition)),
    .field "entryNodeId" text,
    .field "enabled" (.kind .boolean),
    .field "version" count,
    .field "createdAt" text,
    .field "updatedAt" text,
    .required "id", .required "name", .required "nodes", .required "transitions",
    .required "entryNodeId"]

end Schema

end TicketFlow
