import TicketFlow.Sketch.Basic

/-!
# Edits of sketches

An edit sets a field of a sketch or of the payload of a node to any value, or puts
in and takes out nodes and transitions. A field that a payload does not have is
passed over, so an edit never changes the type of a node.
-/

namespace TicketFlow.Sketch

/-- The fields of a sketch that can be set. -/
inductive Field where
  | id
  | name
  | enabled
  | version
  | entryId
  | description
deriving DecidableEq, Repr

/-- The fields of payloads that can be set. -/
inductive PayloadField where
  | label
  | color
  | slaMinutes
  | onEnterActions
  | mandatoryFields
  | event
  | conditions
  | logic
  | actions
  | kind
  | minutes
deriving DecidableEq, Repr

/-- Set a field of a sketch. -/
def set (g : Sketch) (v : Value) : Field → Sketch
  | .id => { g with id := v }
  | .name => { g with name := v }
  | .enabled => { g with enabled := v }
  | .version => { g with version := v }
  | .entryId => { g with entryId := v }
  | .description => { g with description := v }

/-- Set a field of a payload. -/
def Payload.set (data : Payload) (v : Value) (field : PayloadField) : Payload :=
  match data, field with
  | .trigger _ conditions, .event => .trigger v conditions
  | .trigger event _, .conditions => .trigger event (.bare v)
  | .state _ color sla actions fields, .label => .state v color sla actions fields
  | .state label _ sla actions fields, .color => .state label v sla actions fields
  | .state label color _ actions fields, .slaMinutes => .state label color v actions fields
  | .state label color sla _ fields, .onEnterActions => .state label color sla (.bare v) fields
  | .state label color sla actions _, .mandatoryFields => .state label color sla actions v
  | .condition _ conditions, .logic => .condition v conditions
  | .condition logic _, .conditions => .condition logic (.bare v)
  | .action _, .actions => .action (.bare v)
  | .delay _ minutes event, .kind => .delay v minutes event
  | .delay kind _ event, .minutes => .delay kind v event
  | .delay kind minutes _, .event => .delay kind minutes v
  | .terminal _, .label => .terminal v
  | data, _ => data

/-- An edit never changes the type of a node. -/
@[simp] theorem Payload.type_set (data : Payload) (v : Value) (field : PayloadField) :
    (data.set v field).type = data.type := by
  cases data <;> cases field <;> rfl

/-- Set a field of the payload of the node under a key. -/
def setPayload (g : Sketch) (key : Value) (change : Payload → Payload) : Attempt Sketch := do
  match ← g.node? key with
  | some n => return { g with nodes := g.nodes.put key { n with data := change n.data } }
  | none => throw (.missing key)

/-- Put a node under a key, where the key stands or at the end. -/
def putNode (g : Sketch) (key : Value) (n : Node) : Attempt Sketch := do
  return { g with nodes := g.nodes.put (← key.asKey) n }

/-- Take out the node under a key. -/
def removeNode (g : Sketch) (key : Value) : Attempt Sketch := do
  match ← g.node? key with
  | some _ => return { g with nodes := g.nodes.remove key }
  | none => throw (.missing key)

/-- Append a transition. -/
def putTransition (g : Sketch) (t : Transition) : Sketch :=
  { g with transitions := g.transitions ++ [t] }

/-- Take out all transitions with an id. -/
def removeTransition (g : Sketch) (id : Value) : Sketch :=
  { g with transitions := g.transitions.filter fun t => !t.id.same id }

end TicketFlow.Sketch
