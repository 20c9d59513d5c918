import TicketFlow.Rule.Compile
import TicketFlow.Value.Keyed

/-!
# Sketches of workflows

A sketch is a workflow in the making: it has the shape of one, but no schema has
checked it, so each of its fields may hold any value. What is done with a
workflow can be attempted with a sketch. An attempt fails where it meets a value
that does not do what is asked of it, and a value that is only passed on or shown
is never in the way.

A list of conditions or actions either was read item by item, or is a bare value
that was put in its place. Going through a bare value meets bare parts, which are
in the way only when they are looked into.
-/

namespace TicketFlow

/-- Why an attempt fails. -/
inductive Misfit where
  /-- There is nothing under a key. -/
  | missing (key : Value)
  /-- A value does not support what is to be done with it. -/
  | operation
  /-- A value has no part of the name that is asked for. -/
  | part
  /-- A name is none of those that there are. -/
  | name
  /-- A workflow has no rules. -/
  | compile (error : CompileError)
  /-- A document cannot be read. -/
  | document (error : ReadError)

/-- What can fail on values that do not fit. -/
abbrev Attempt (α : Type) := Except Misfit α

namespace Value

/-- A value as a key. -/
def asKey (v : Value) : Attempt Value :=
  if v.isContainer then .error .operation else .ok v

/-- The values that a value goes through. -/
def elements (v : Value) : Attempt (List Value) :=
  match v.elements? with
  | some items => .ok items
  | none => .error .operation

/-- The number that a value counts as. -/
def quantity (v : Value) : Attempt Number :=
  match v.quantity? with
  | some n => .ok n
  | none => .error .operation

/-- The text that is to be searched. -/
def searchable (v : Value) : Attempt String :=
  match v.asString? with
  | some s => .ok s
  | none => .error .part

/-- Whether a value is a certain text. -/
def isText (v : Value) (text : String) : Bool :=
  v.asString? == some text

/-- A value as hours, if it is a number of minutes. -/
def minutesToHours (v : Value) : Attempt Number := do
  (← v.quantity).minutesToHours.mapError Misfit.compile

end Value

namespace Sketch

/-- An item that was read, or a bare value in its place. -/
inductive Part (α : Type) where
  | read (item : α)
  | bare (v : Value)

/-- Items that were read, or a bare value in their place. -/
inductive Series (α : Type) where
  | read (items : List α)
  | bare (v : Value)

namespace Part

variable {α : Type}

/-- The item of a part that was read. -/
def item? : Part α → Option α
  | .read item => some item
  | .bare _ => none

/-- The item of a part. There is no looking into a bare one. -/
def item (part : Part α) : Attempt α :=
  match part.item? with
  | some item => .ok item
  | none => .error .part

end Part

namespace Series

variable {α : Type}

/-- Whether there is anything in a series. -/
def isSet : Series α → Bool
  | .read items => !items.isEmpty
  | .bare v => v.isSet

/-- The parts that a series goes through. -/
def parts : Series α → Attempt (List (Part α))
  | .read items => .ok (items.map .read)
  | .bare v => do return (← v.elements).map .bare

end Series

/-- A single test of a ticket. -/
structure Condition where
  field : Value
  operator : Value
  value : Value

/-- A side effect on a ticket. -/
structure Action where
  kind : Value
  value : Value
  extra : List (String × Value)

/-- What a node of a type carries. -/
inductive Payload where
  | trigger (event : Value) (conditions : Series Condition)
  | state (label color slaMinutes : Value) (onEnterActions : Series Action)
      (mandatoryFields : Value)
  | condition (logic : Value) (conditions : Series Condition)
  | action (actions : Series Action)
  | delay (kind minutes event : Value)
  | terminal (label : Value)

namespace Payload

/-- The type of the node that carries a payload. -/
def type : Payload → NodeType
  | .trigger .. => .trigger
  | .state .. => .state
  | .condition .. => .condition
  | .action .. => .action
  | .delay .. => .delay
  | .terminal .. => .terminal

/-- The name of a node in messages. -/
def label : Payload → Value
  | .trigger .. => .string "Trigger"
  | .state label .. => if label.isSet then label else .string "State"
  | .condition .. => .string "Condition"
  | .action .. => .string "Action"
  | .delay .. => .string "Delay"
  | .terminal .. => .string "End"

end Payload

/-- A node of a sketch. -/
structure Node where
  id : Value
  data : Payload
  x : Value
  y : Value

namespace Node

/-- The type of a node. -/
def type (n : Node) : NodeType :=
  n.data.type

/-- Whether tickets leave at a node. -/
def isEnd (n : Node) : Bool :=
  n.type == .terminal

/-- Whether tickets wait at a node. -/
def isState (n : Node) : Bool :=
  n.type == .state

/-- The name of a node in messages, written out. -/
def title (n : Node) : String :=
  n.data.label.display

end Node

/-- A directed edge between two nodes. -/
structure Transition where
  id : Value
  source : Value
  target : Value
  label : Value
  branchKey : Value
  conditions : List Condition
  actions : List Action

namespace Transition

/-- A transition that only moves a ticket. -/
def plain (id source target : Value) (label : String) (branchKey : Value) : Transition :=
  ⟨id, source, target, .string label, branchKey, [], []⟩

end Transition

end Sketch

/-- A workflow whose fields may hold any value. -/
structure Sketch where
  id : Value
  name : Value
  nodes : Keyed Sketch.Node
  transitions : List Sketch.Transition
  entryId : Value
  enabled : Value
  version : Value
  description : Value
  createdAt : Option Timestamp
  updatedAt : Option Timestamp

namespace Sketch

/-- A sketch without nodes. -/
def blank (id name entryId : Value) : Sketch :=
  ⟨id, name, [], [], entryId, .bool true, .number 1, .null, none, none⟩

instance : Inhabited Sketch := ⟨blank .null .null .null⟩

/-- The node under a key. -/
def node? (g : Sketch) (key : Value) : Attempt (Option Node) := do
  return g.nodes.get? (← key.asKey)

/-- The entry node, if an entry is set. -/
def entry? (g : Sketch) : Attempt (Option Node) :=
  if g.entryId.isSet then g.node? g.entryId else .ok none

/-- The nodes where tickets leave, in order. -/
def endNodes (g : Sketch) : List Node :=
  g.nodes.values.filter Node.isEnd

/-- The first node where tickets leave. -/
def firstEnd? (g : Sketch) : Option Node :=
  g.nodes.values.find? Node.isEnd

/-- The transitions that leave a key. -/
def outgoing (g : Sketch) (key : Value) : List Transition :=
  g.transitions.filter fun t => t.source.same key

/-- The transitions that arrive at a key. -/
def incoming (g : Sketch) (key : Value) : List Transition :=
  g.transitions.filter fun t => t.target.same key

end Sketch

end TicketFlow
