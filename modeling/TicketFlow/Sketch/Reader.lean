import TicketFlow.Sketch.Basic
import TicketFlow.Workflow.Reader

/-!
# Reading parts of sketches

The parts of a sketch are read from documents that no schema has checked. Only
the shape is asked for: what must be there is there, and what is gone through can
be gone through. The first part that is looked at and does not fit decides.
-/

namespace TicketFlow

namespace Value

/-- The content of a field of an object that must be there. -/
def demand (v : Value) (name : String) : Attempt Value :=
  match v with
  | .object fields =>
    match Table.lookup name fields with
    | some content => .ok content
    | none => .error (.missing (.string name))
  | _ => .error .operation

/-- The content of a field, or a default. -/
def fieldOr (v : Value) (name : String) (default : Value) : Value :=
  (v.get? name).getD default

/-- The values that a field goes through; an absent one goes through nothing. -/
def fieldElements (v : Value) (name : String) : Attempt (List Value) :=
  (v.fieldOr name (.array [])).elements

end Value

namespace Timestamp

/-- Read a timestamp that may be absent. -/
def readValue (v : Value) : Attempt (Option Timestamp) :=
  if v.isSet then do (readText (← v.searchable)).mapError .document else .ok none

end Timestamp

/-- Read a node type by its name. -/
def NodeType.demand (v : Value) : Attempt NodeType :=
  match v.asString?.bind NodeType.ofName? with
  | some type => .ok type
  | none => .error .name

namespace Sketch

/-- Read a condition. -/
def Condition.read (v : Value) : Attempt Condition := do
  let field ← v.demand "field"
  let operator ← v.demand "operator"
  return ⟨field, operator, v.fieldOr "value" .null⟩

/-- Read an action. Its further keys are taken in their own order. -/
def Action.read (v : Value) : Attempt Action := do
  let kind ← v.demand "type"
  let extra := actionExtraKeys.filterMap fun key => (v.get? key).map fun x => (key, x)
  return ⟨kind, v.fieldOr "value" .null, extra⟩

/-- Read the conditions of a field. -/
def Condition.readList (v : Value) (name : String) : Attempt (List Condition) := do
  (← v.fieldElements name).mapM Condition.read

/-- Read the actions of a field. -/
def Action.readList (v : Value) (name : String) : Attempt (List Action) := do
  (← v.fieldElements name).mapM Action.read

/-- Read the payload of a node of a type. The conditions are read for every type. -/
def Payload.read (type : NodeType) (v : Value) : Attempt Payload :=
  match v with
  | .object _ => do
    let conditions ← Condition.readList v "conditions"
    match type with
    | .trigger => return .trigger (v.fieldOr "event" (.string "")) (.read conditions)
    | .state =>
      let actions ← Action.readList v "onEnterActions"
      let mandatory ← v.fieldElements "mandatoryFields"
      return .state (v.fieldOr "label" (.string "")) (v.fieldOr "color" .null)
        (v.fieldOr "slaMinutes" .null) (.read actions) (.array mandatory)
    | .condition => return .condition (v.fieldOr "logic" (.string "all")) (.read conditions)
    | .action => return .action (.read (← Action.readList v "actions"))
    | .delay =>
      return .delay (v.fieldOr "type" (.string "time")) (v.fieldOr "minutes" .null)
        (v.fieldOr "event" .null)
    | .terminal => return .terminal (v.fieldOr "label" (.string ""))
  | _ => .error .part

/-- Read the two coordinates of a position; one that is not there is zero. -/
def readPosition (v : Value) : Attempt (Value × Value) := do
  match ← v.fieldElements "position" with
  | [] => return (.number 0, .number 0)
  | [x] => return (x, .number 0)
  | [x, y] => return (x, y)
  | _ => .error .operation

/-- Read a node. Its position is a list of coordinates. -/
def Node.read (v : Value) : Attempt Node := do
  let type ← NodeType.demand (← v.demand "type")
  let data ← Payload.read type (← v.demand "data")
  let (x, y) ← readPosition v
  return ⟨← v.demand "id", data, x, y⟩

/-- Read a transition. -/
def Transition.read (v : Value) : Attempt Transition := do
  let id ← v.demand "id"
  let source ← v.demand "fromNodeId"
  let target ← v.demand "toNodeId"
  let conditions ← Condition.readList v "conditions"
  let actions ← Action.readList v "actions"
  return ⟨id, source, target, v.fieldOr "label" .null, v.fieldOr "branchKey" .null,
    conditions, actions⟩

end Sketch

end TicketFlow
