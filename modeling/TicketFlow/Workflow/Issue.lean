import TicketFlow.Workflow.Basic

/-!
# Issues of workflows

Structural problems of a workflow, as data. An error keeps a workflow from being
put to use, a warning does not. `Workflow.issues` lists errors about the entry
and the references first, then the warnings, node by node.
-/

namespace TicketFlow

/-- How much an issue matters. -/
inductive Severity where
  | error
  | warning
deriving DecidableEq, Repr

namespace Severity

/-- The name of a severity. -/
def name : Severity → String
  | .error => "error"
  | .warning => "warning"

end Severity

/-- A structural problem, and the node that has it if it is one node's. -/
structure Issue where
  message : String
  severity : Severity
  nodeId? : Option String
deriving DecidableEq, Repr

namespace Issue

/-- An error of the workflow as a whole. -/
def error (message : String) : Issue :=
  ⟨message, .error, none⟩

/-- An error of a node. -/
def errorAt (nodeId message : String) : Issue :=
  ⟨message, .error, some nodeId⟩

/-- A warning about a node. -/
def warningAt (nodeId message : String) : Issue :=
  ⟨message, .warning, some nodeId⟩

/-- Whether an issue is an error. -/
def isError (issue : Issue) : Bool :=
  issue.severity == .error

end Issue

/-- A list with one issue under a condition, else without. -/
def issueIf {ι : Type} (condition : Bool) (issue : ι) : List ι :=
  if condition then [issue] else []

theorem map_issueIf {ι κ : Type} (f : ι → κ) (condition : Bool) (issue : ι) :
    (issueIf condition issue).map f = issueIf condition (f issue) := by
  cases condition <;> rfl

/-- A name between double quotes, as messages show it. -/
def inQuotes (name : String) : String :=
  "\"" ++ name ++ "\""

namespace Workflow

/-- The entry key is set and resolves. -/
def entryIssues (w : Workflow) : List Issue :=
  if w.entryId = "" then [.error "Workflow must have an entryNodeId"]
  else
    issueIf (!w.nodes.contains w.entryId)
      (.error ("entryNodeId " ++ inQuotes w.entryId ++ " does not reference a valid node"))

/-- Both ends of a transition resolve. -/
def referenceIssues (w : Workflow) (t : Transition) : List Issue :=
  issueIf (!w.nodes.contains t.source)
    (.error ("Transition " ++ inQuotes t.id ++ " references unknown fromNodeId " ++
      inQuotes t.source)) ++
  issueIf (!w.nodes.contains t.target)
    (.error ("Transition " ++ inQuotes t.id ++ " references unknown toNodeId " ++
      inQuotes t.target))

/-- Whether a key is the entry or an end of some transition. -/
def isReferenced (w : Workflow) (key : String) : Bool :=
  key == w.entryId || w.transitions.any fun t => t.source == key || t.target == key

/-- A node is the entry or an end of some transition. -/
def orphanIssues (w : Workflow) (key : String) : List Issue :=
  issueIf (!w.isReferenced key)
    (.errorAt key ("Node " ++ inQuotes key ++ " is orphaned (not connected by any transition)"))

/-- Tickets can leave a trigger at the entry. -/
def triggerIssues (w : Workflow) : List Issue :=
  issueIf (w.entryTrigger?.isSome && (w.outgoing w.entryId).isEmpty)
    (.errorAt w.entryId "Trigger node must have at least one outgoing transition")

/-- Tickets can leave the workflow. -/
def endIssues (w : Workflow) : List Issue :=
  issueIf w.endNodes.isEmpty
    ⟨"Workflow has no end node; tickets may stay in progress forever", .warning, none⟩

/-- Whether a payload is an action node's, without any action. -/
def lacksActions : NodeData → Bool
  | .action d => d.actions.isEmpty
  | _ => false

/-- Tickets can leave and reach a node, a condition has two branches, and an action
node does something. -/
def nodeIssues (w : Workflow) (key : String) (n : Node) : List Issue :=
  let label := inQuotes n.label
  issueIf (!n.isEnd && (w.outgoing key).isEmpty)
    (.warningAt key (label ++ " has no outgoing transitions")) ++
  issueIf (key != w.entryId && (w.incoming key).isEmpty)
    (.warningAt key (label ++ " has no incoming transitions")) ++
  issueIf (n.type == .condition && (w.outgoing key).length < 2)
    (.warningAt key ("Condition " ++ label ++ " should have at least 2 branches")) ++
  issueIf (lacksActions n.data)
    (.warningAt key "Action node has no actions defined")

/-- All issues of a workflow. -/
def issues (w : Workflow) : List Issue :=
  w.entryIssues ++
    w.transitions.flatMap w.referenceIssues ++
    w.nodes.keys.flatMap w.orphanIssues ++
    w.triggerIssues ++
    w.endIssues ++
    w.nodes.entries.flatMap fun e => w.nodeIssues e.1 e.2

/-- The errors of a workflow. -/
def errors (w : Workflow) : List Issue :=
  w.issues.filter Issue.isError

/-- The warnings of a workflow. -/
def warnings (w : Workflow) : List Issue :=
  w.issues.filter fun issue => issue.severity == .warning

/-- A workflow without errors. -/
def isValid (w : Workflow) : Bool :=
  !w.issues.any Issue.isError

/-- A workflow is valid exactly when it has no errors. -/
theorem isValid_iff (w : Workflow) : w.isValid = true ↔ w.errors = [] := by
  simp [isValid, errors, List.filter_eq_nil_iff]

end Workflow

end TicketFlow
