import TicketFlow.Table
import TicketFlow.Time.Calendar
import TicketFlow.Value.Basic

/-!
# Workflows

A workflow is a graph of the places that a ticket passes through. Its nodes
stand in a table, under keys that transitions refer to; a reference need not
resolve, and a node may be stored under a key that is not its id. The payload of
a node decides its type, so a node never carries data of another type.
-/

namespace TicketFlow

/-- A single test of a ticket: a field, an operator and an operand. The operand
`null` is also what an absent one reads as. -/
structure Condition where
  field : String
  operator : String
  value : Value
deriving Inhabited

/-- A side effect on a ticket. The value `null` stands for an absent one, and
`extra` holds further keys with their contents. -/
structure Action where
  kind : String
  value : Value
  extra : List (String × Value)
deriving Inhabited

/-- A place on the canvas. -/
structure Position where
  x : Number
  y : Number
deriving DecidableEq, Inhabited

/-- The types of nodes. -/
inductive NodeType where
  | trigger
  | state
  | condition
  | action
  | delay
  | terminal
deriving DecidableEq, Repr

namespace NodeType

/-- The name of a node type in documents. -/
def name : NodeType → String
  | .trigger => "trigger"
  | .state => "state"
  | .condition => "condition"
  | .action => "action"
  | .delay => "delay"
  | .terminal => "end"

/-- All node types, in the order of their declaration. -/
def all : List NodeType :=
  [.trigger, .state, .condition, .action, .delay, .terminal]

/-- The node type with a name. -/
def ofName? (name : String) : Option NodeType :=
  all.find? fun t => t.name == name

@[simp] theorem ofName?_name (t : NodeType) : ofName? t.name = some t := by
  cases t <;> decide

end NodeType

/-- Where tickets enter, on an event and under conditions. -/
structure TriggerData where
  event : String
  conditions : List Condition

/-- Where tickets wait. A state may set a deadline in minutes. -/
structure StateData where
  label : String
  color : Option String
  slaMinutes : Option Number
  onEnterActions : List Action
  mandatoryFields : List String

/-- A decision over conditions, of which all or any must hold. -/
structure ConditionData where
  logic : String
  conditions : List Condition

/-- Side effects. -/
structure ActionData where
  actions : List Action

/-- A pause, for a time in minutes or until an event. -/
structure DelayData where
  kind : String
  minutes : Option Number
  event : Option String

/-- Where tickets leave. -/
structure EndData where
  label : String

/-- The payload of a node. -/
inductive NodeData where
  | trigger (data : TriggerData)
  | state (data : StateData)
  | condition (data : ConditionData)
  | action (data : ActionData)
  | delay (data : DelayData)
  | terminal (data : EndData)

namespace NodeData

/-- The type of the node that carries a payload. -/
def type : NodeData → NodeType
  | .trigger _ => .trigger
  | .state _ => .state
  | .condition _ => .condition
  | .action _ => .action
  | .delay _ => .delay
  | .terminal _ => .terminal

/-- The payload of a state. -/
def state? : NodeData → Option StateData
  | .state data => some data
  | _ => none

/-- The payload of a trigger. -/
def trigger? : NodeData → Option TriggerData
  | .trigger data => some data
  | _ => none

/-- The name of a node in messages. Only a state with a label has one of its own. -/
def label : NodeData → String
  | .trigger _ => "Trigger"
  | .state data => if data.label = "" then "State" else data.label
  | .condition _ => "Condition"
  | .action _ => "Action"
  | .delay _ => "Delay"
  | .terminal _ => "End"

end NodeData

/-- A node of a workflow. -/
structure Node where
  id : String
  data : NodeData
  position : Position

namespace Node

/-- The type of a node. -/
def type (n : Node) : NodeType :=
  n.data.type

/-- The name of a node in messages. -/
def label (n : Node) : String :=
  n.data.label

/-- Whether tickets leave at a node. -/
def isEnd (n : Node) : Bool :=
  n.type == .terminal

/-- Whether tickets wait at a node. -/
def isState (n : Node) : Bool :=
  n.type == .state

end Node

/-- A directed edge between two nodes. The branch key matters only when the source
is a condition. -/
structure Transition where
  id : String
  source : String
  target : String
  label : Option String
  branchKey : Option String
  conditions : List Condition
  actions : List Action

namespace Transition

/-- A transition that only moves a ticket. -/
def plain (id source target : String) (label : Option String) : Transition :=
  ⟨id, source, target, label, none, [], []⟩

end Transition

/-- The life cycle of a ticket as a graph. -/
structure Workflow where
  id : String
  name : String
  nodes : Table Node
  transitions : List Transition
  entryId : String
  enabled : Bool
  version : Number
  description : Option String
  createdAt : Option Timestamp
  updatedAt : Option Timestamp

namespace Workflow

/-- The entry node. The empty key never resolves. -/
def entry? (w : Workflow) : Option Node :=
  if w.entryId = "" then none else w.nodes.get? w.entryId

/-- The payload of the entry node, if that is a trigger. -/
def entryTrigger? (w : Workflow) : Option TriggerData :=
  w.entry?.bind (·.data.trigger?)

/-- The nodes where tickets leave, in order. -/
def endNodes (w : Workflow) : List Node :=
  w.nodes.values.filter Node.isEnd

/-- The first node where tickets leave. -/
def firstEnd? (w : Workflow) : Option Node :=
  w.nodes.values.find? Node.isEnd

/-- The transitions that leave a key. -/
def outgoing (w : Workflow) (key : String) : List Transition :=
  w.transitions.filter fun t => t.source == key

/-- The transitions that arrive at a key. -/
def incoming (w : Workflow) (key : String) : List Transition :=
  w.transitions.filter fun t => t.target == key

/-- Every node is stored under its own id. -/
def KeyedById (w : Workflow) : Prop :=
  ∀ e ∈ w.nodes.entries, e.2.id = e.1

/-- The first end node is the first of the end nodes. -/
theorem head?_endNodes (w : Workflow) : w.endNodes.head? = w.firstEnd? := by
  simp [endNodes, firstEnd?]

end Workflow

end TicketFlow
