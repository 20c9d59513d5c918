import TicketFlow.Sketch.Basic
import TicketFlow.Workflow.Issue

/-!
# Issues of sketches

The structural problems of a sketch are those of a workflow, in the same order.
They can be told as long as every key that is looked up can serve as one: the
entry and both ends of every transition. All other values are only compared or
shown.
-/

namespace TicketFlow.Sketch

/-- A structural problem, and the key of the node that has it; `null` if it is no
node's. -/
structure Issue where
  message : String
  severity : Severity
  nodeId : Value

namespace Issue

/-- An error of the sketch as a whole. -/
def error (message : String) : Issue :=
  ⟨message, .error, .null⟩

/-- An error of a node. -/
def errorAt (nodeId : Value) (message : String) : Issue :=
  ⟨message, .error, nodeId⟩

/-- A warning about a node. -/
def warningAt (nodeId : Value) (message : String) : Issue :=
  ⟨message, .warning, nodeId⟩

end Issue

/-- A value between double quotes, as messages show it. -/
def quoted (v : Value) : String :=
  inQuotes v.display

/-- Whether the entry and both ends of every transition can serve as keys. -/
def hasKeys (g : Sketch) : Bool :=
  !g.entryId.isContainer &&
    g.transitions.all fun t => !t.source.isContainer && !t.target.isContainer

/-- The entry key is set and resolves. -/
def entryIssues (g : Sketch) : List Issue :=
  if g.entryId.isSet then
    issueIf (!g.nodes.contains g.entryId)
      (Issue.error ("entryNodeId " ++ quoted g.entryId ++ " does not reference a valid node"))
  else [.error "Workflow must have an entryNodeId"]

/-- Both ends of a transition resolve. -/
def referenceIssues (g : Sketch) (t : Transition) : List Issue :=
  issueIf (!g.nodes.contains t.source)
    (Issue.error ("Transition " ++ quoted t.id ++ " references unknown fromNodeId " ++
      quoted t.source)) ++
  issueIf (!g.nodes.contains t.target)
    (Issue.error ("Transition " ++ quoted t.id ++ " references unknown toNodeId " ++
      quoted t.target))

/-- Whether a key is the entry or an end of some transition. -/
def isReferenced (g : Sketch) (key : Value) : Bool :=
  key.same g.entryId || g.transitions.any fun t => t.source.same key || t.target.same key

/-- A node is the entry or an end of some transition. -/
def orphanIssues (g : Sketch) (key : Value) : List Issue :=
  issueIf (!g.isReferenced key)
    (Issue.errorAt key ("Node " ++ quoted key ++ " is orphaned (not connected by any transition)"))

/-- Whether a trigger stands at the entry. -/
def entersAtTrigger (g : Sketch) : Bool :=
  g.entryId.isSet && (g.nodes.get? g.entryId).any fun n => n.type == .trigger

/-- Tickets can leave a trigger at the entry. -/
def triggerIssues (g : Sketch) : List Issue :=
  issueIf (g.entersAtTrigger && (g.outgoing g.entryId).isEmpty)
    (Issue.errorAt g.entryId "Trigger node must have at least one outgoing transition")

/-- Tickets can leave the sketch. -/
def endIssues (g : Sketch) : List Issue :=
  issueIf g.endNodes.isEmpty
    (Issue.warningAt .null "Workflow has no end node; tickets may stay in progress forever")

/-- Whether a payload is an action node's, without any action. -/
def Payload.lacksActions : Payload → Bool
  | .action actions => !actions.isSet
  | _ => false

/-- Tickets can leave and reach a node, a condition has two branches, and an action
node does something. -/
def nodeIssues (g : Sketch) (key : Value) (n : Node) : List Issue :=
  let label := inQuotes n.title
  issueIf (!n.isEnd && (g.outgoing key).isEmpty)
    (Issue.warningAt key (label ++ " has no outgoing transitions")) ++
  issueIf (!key.same g.entryId && (g.incoming key).isEmpty)
    (Issue.warningAt key (label ++ " has no incoming transitions")) ++
  issueIf (n.type == .condition && (g.outgoing key).length < 2)
    (Issue.warningAt key ("Condition " ++ label ++ " should have at least 2 branches")) ++
  issueIf n.data.lacksActions
    (Issue.warningAt key "Action node has no actions defined")

/-- All issues of a sketch. -/
def issues (g : Sketch) : Attempt (List Issue) :=
  if g.hasKeys then
    .ok (g.entryIssues ++
      g.transitions.flatMap g.referenceIssues ++
      g.nodes.keys.flatMap g.orphanIssues ++
      g.triggerIssues ++
      g.endIssues ++
      g.nodes.flatMap fun e => g.nodeIssues e.1 e.2)
  else .error .operation

end TicketFlow.Sketch
