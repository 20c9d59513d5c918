import TicketFlow.Sketch.Basic

/-!
# Documents of sketches

The document of a sketch has the fields of the document of a workflow, in the
same order, and shows every value as it is. Writing fails on a series that cannot
be gone through, or that holds a bare part.
-/

namespace TicketFlow.Sketch

/-- A field that is left out when its content is `null`. -/
def unlessNull (name : String) (content : Value) : List (String × Value) :=
  match content with
  | .null => []
  | v => [(name, v)]

/-- The document of a condition. -/
def Condition.toValue (c : Condition) : Value :=
  .object [("field", c.field), ("operator", c.operator), ("value", c.value)]

/-- The document of an action. -/
def Action.toValue (a : Action) : Value :=
  .object (("type", a.kind) :: unlessNull "value" a.value ++ a.extra)

/-- The documents of the parts of a list. -/
def Part.toValues {α : Type} (toValue : α → Value) (parts : List (Part α)) :
    Attempt (List Value) :=
  parts.mapM fun part => part.item.map toValue

/-- The documents of the parts of a series. -/
def Series.toValues {α : Type} (toValue : α → Value) (s : Series α) : Attempt (List Value) := do
  Part.toValues toValue (← s.parts)

/-- A field that is left out when there is nothing in its series. -/
def seriesEntry {α : Type} (toValue : α → Value) (name : String) (s : Series α) :
    Attempt (List (String × Value)) :=
  if s.isSet then do return [(name, .array (← s.toValues toValue))] else .ok []

/-- A list of names that is left out when there are none. -/
def namesEntry (name : String) (v : Value) : Attempt (List (String × Value)) :=
  if v.isSet then do return [(name, .array (← v.elements))] else .ok []

/-- The document of a payload. -/
def Payload.toValue : Payload → Attempt Value
  | .trigger event conditions => do
    return .object (("event", event) ::
      (← seriesEntry Condition.toValue "conditions" conditions))
  | .state label color slaMinutes actions mandatory => do
    let actions ← seriesEntry Action.toValue "onEnterActions" actions
    let mandatory ← namesEntry "mandatoryFields" mandatory
    return .object (("label", label) :: unlessNull "color" color ++
      unlessNull "slaMinutes" slaMinutes ++ actions ++ mandatory)
  | .condition logic conditions => do
    return .object [("logic", logic),
      ("conditions", .array (← conditions.toValues Condition.toValue))]
  | .action actions => do
    return .object [("actions", .array (← actions.toValues Action.toValue))]
  | .delay kind minutes event =>
    .ok (.object (("type", kind) :: unlessNull "minutes" minutes ++ unlessNull "event" event))
  | .terminal label => .ok (.object [("label", label)])

/-- The document of a node. -/
def Node.toValue (n : Node) : Attempt Value := do
  return .object [("id", n.id), ("type", .string n.type.name), ("data", ← n.data.toValue),
    ("position", .object [("x", n.x), ("y", n.y)])]

/-- A field that is left out when its list is empty. -/
def listEntry (name : String) (items : List Value) : List (String × Value) :=
  if items.isEmpty then [] else [(name, .array items)]

/-- The document of a transition. -/
def Transition.toValue (t : Transition) : Value :=
  .object ([("id", t.id), ("fromNodeId", t.source), ("toNodeId", t.target)] ++
    unlessNull "label" t.label ++ unlessNull "branchKey" t.branchKey ++
    listEntry "conditions" (t.conditions.map Condition.toValue) ++
    listEntry "actions" (t.actions.map Action.toValue))

/-- The document of a sketch. -/
def toValue (g : Sketch) : Attempt Value := do
  let nodes ← g.nodes.mapM fun e => do return (e.1.keyText, ← e.2.toValue)
  return .object ([("id", g.id), ("name", g.name), ("nodes", .object nodes),
      ("transitions", .array (g.transitions.map Transition.toValue)),
      ("entryNodeId", g.entryId), ("enabled", g.enabled), ("version", g.version)] ++
    unlessNull "description" g.description ++
    Value.optionEntry "createdAt" (g.createdAt.map Timestamp.toValue) ++
    Value.optionEntry "updatedAt" (g.updatedAt.map Timestamp.toValue))

end TicketFlow.Sketch
