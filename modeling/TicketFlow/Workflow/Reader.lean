import TicketFlow.Schema.Document
import TicketFlow.Time.Text
import TicketFlow.Workflow.Basic
import TicketFlow.Workflow.Error

/-!
# Reading workflow documents

`Workflow.read` checks a document against the schema and then reads it field by
field: the nodes in order, the transitions, and the two timestamps. The first
error is reported. The readers of the parts rely on the schema: what it would
have refused in a field reads as the default of the field.

The conditions in the data of a node are read for every type of node, although
only triggers and condition nodes keep them. In the other types the schema does
not speak of them, so reading them can fail after the schema has accepted.
-/

namespace TicketFlow

namespace Value

/-- The text of a field, or a default. -/
def textField (v : Value) (name default : String) : String :=
  ((v.get? name).bind asString?).getD default

/-- The text of a field that may be absent. -/
def textField? (v : Value) (name : String) : Option String :=
  (v.get? name).bind asString?

/-- The number of a field that may be absent. -/
def numberField? (v : Value) (name : String) : Option Number :=
  (v.get? name).bind asNumber?

/-- The number of a field, or a default. -/
def numberField (v : Value) (name : String) (default : Number) : Number :=
  (v.numberField? name).getD default

/-- A field that must be there. -/
def require (v : Value) (name : String) : Except ReadError Value :=
  match v.get? name with
  | some x => .ok x
  | none => .error (.missingKey name)

/-- The text of a field that must be there. -/
def requireText (v : Value) (name : String) : Except ReadError String :=
  (v.require name).map fun x => x.asString?.getD ""

/-- The values that a field goes through; an absent field goes through nothing. -/
def listField (v : Value) (name : String) : Except ReadError (List Value) :=
  match v.get? name with
  | none => .ok []
  | some content =>
    match content.elements? with
    | some items => .ok items
    | none => .error .wrongKind

end Value

/-- Read a condition. -/
def Condition.read (v : Value) : Except ReadError Condition :=
  match v with
  | .object _ => do
    let field ← v.requireText "field"
    let operator ← v.requireText "operator"
    return ⟨field, operator, (v.get? "value").getD .null⟩
  | _ => .error .wrongKind

/-- Read an action. Its further keys are taken in their own order. -/
def Action.read (v : Value) : Except ReadError Action :=
  match v with
  | .object _ => do
    let kind ← v.requireText "type"
    let extra := actionExtraKeys.filterMap fun key => (v.get? key).map fun x => (key, x)
    return ⟨kind, (v.get? "value").getD .null, extra⟩
  | _ => .error .wrongKind

/-- Read the conditions of a field. -/
def Condition.readList (v : Value) (name : String) : Except ReadError (List Condition) := do
  (← v.listField name).mapM Condition.read

/-- Read the actions of a field. -/
def Action.readList (v : Value) (name : String) : Except ReadError (List Action) := do
  (← v.listField name).mapM Action.read

/-- Read the payload of a node of a type. -/
def NodeData.read (type : NodeType) (v : Value) : Except ReadError NodeData :=
  match v with
  | .object _ => do
    let conditions ← Condition.readList v "conditions"
    match type with
    | .trigger => return .trigger ⟨v.textField "event" "", conditions⟩
    | .state =>
      let actions ← Action.readList v "onEnterActions"
      let mandatory ← v.listField "mandatoryFields"
      return .state ⟨v.textField "label" "", v.textField? "color", v.numberField? "slaMinutes",
        actions, mandatory.filterMap Value.asString?⟩
    | .condition => return .condition ⟨v.textField "logic" "all", conditions⟩
    | .action => return .action ⟨← Action.readList v "actions"⟩
    | .delay =>
      return .delay ⟨v.textField "type" "time", v.numberField? "minutes", v.textField? "event"⟩
    | .terminal => return .terminal ⟨v.textField "label" ""⟩
  | _ => .error .notAnObject

/-- Read a position. A coordinate that is absent is zero. -/
def Position.read (v : Value) : Position :=
  ⟨v.numberField "x" 0, v.numberField "y" 0⟩

/-- Read a node type by its name. -/
def NodeType.read (v : Value) : Except ReadError NodeType :=
  let name := v.asString?.getD ""
  match NodeType.ofName? name with
  | some type => .ok type
  | none => .error (.unknownType name)

/-- Read the node that a document stores under a key. -/
def Node.read (key : String) (v : Value) : Except ReadError Node := do
  let id ← v.requireText "id"
  if id ≠ key then .error (.keyMismatch key id)
  else
    let type ← NodeType.read (← v.require "type")
    let data ← NodeData.read type (← v.require "data")
    return ⟨key, data, Position.read ((v.get? "position").getD (.object []))⟩

/-- Read a transition. -/
def Transition.read (v : Value) : Except ReadError Transition := do
  let id ← v.requireText "id"
  let source ← v.requireText "fromNodeId"
  let target ← v.requireText "toNodeId"
  let conditions ← Condition.readList v "conditions"
  let actions ← Action.readList v "actions"
  return ⟨id, source, target, v.textField? "label", v.textField? "branchKey", conditions, actions⟩

namespace Timestamp

/-- Read a timestamp that may be absent; the empty text is as good as none. -/
def readText (text : String) : Except ReadError (Option Timestamp) :=
  if text = "" then .ok none
  else
    match ofText? text with
    | some t => .ok (some t)
    | none => .error (.timestamp text)

end Timestamp

namespace Workflow

/-- Read the nodes of a document, each under its key. -/
def readNodes (v : Value) : Except ReadError (Table Node) := do
  let entries ← v.fields.mapM fun f => do return (f.1, ← Node.read f.1 f.2)
  return Table.ofList entries

/-- Read a document that meets the schema. -/
def readFields (v : Value) : Except ReadError Workflow := do
  let nodes ← readNodes ((v.get? "nodes").getD .null)
  let transitions ← ((v.get? "transitions").getD .null).items.mapM Transition.read
  let createdAt ← Timestamp.readText (v.textField "createdAt" "")
  let updatedAt ← Timestamp.readText (v.textField "updatedAt" "")
  return {
    id := v.textField "id" ""
    name := v.textField "name" ""
    nodes
    transitions
    entryId := v.textField "entryNodeId" ""
    enabled := ((v.get? "enabled").bind Value.asBool?).getD true
    version := v.numberField "version" 1
    description := v.textField? "description"
    createdAt
    updatedAt }

/-- Check a document against the schema. -/
def checkSchema (v : Value) : Except ReadError Unit :=
  match Schema.workflow.violations v with
  | [] => .ok ()
  | violations => .error (.schema (Violation.sorted violations))

/-- Read a workflow document. -/
def read (v : Value) : Except ReadError Workflow := do
  checkSchema v
  readFields v

/-- Read the workflow of an export. The rules that it brings along are ignored. An
empty workflow counts as an empty document. -/
def readExport (v : Value) : Except ReadError Workflow :=
  match v with
  | .object _ =>
    let found := (v.get? "format").getD .null
    if found.asString? = some exportFormat then
      let content := (v.get? "workflow").getD .null
      read (if content.isSet then content else .object [])
    else .error (.format found)
  | _ => .error .notAnObject

end Workflow

end TicketFlow
