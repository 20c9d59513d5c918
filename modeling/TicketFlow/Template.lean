import TicketFlow.Repair.Basic

/-!
# Templates

A template is a workflow without ids: nodes with their places, and edges between
them by number. Making a workflow from it takes one id for each node, one for
each edge, and a last one for the workflow itself, which starts out disabled at
version 1 with its first node as the entry. Nodes that are given the same id
fall together, as in any table.
-/

namespace TicketFlow

/-- An edge of a template, between nodes by number. -/
structure TemplateEdge where
  source : Nat
  target : Nat
  label : Option String
  branchKey : Option String

/-- A workflow without ids. -/
structure Template where
  key : String
  name : String
  description : String
  nodes : List (NodeData × Position)
  edges : List TemplateEdge

namespace Template

/-- An edge, with or without a label. -/
def edge (source target : Nat) (label : Option String) : TemplateEdge :=
  ⟨source, target, label, none⟩

/-- The trigger that admits new tickets. -/
def onCreate : NodeData :=
  .trigger ⟨"create", []⟩

/-- A state with a label and a color. -/
def coloredState (label color : String) : NodeData :=
  .state ⟨label, some color, none, [], []⟩

/-- A state with a label, a color and a deadline. -/
def timedState (label color : String) (minutes : Int) : NodeData :=
  .state ⟨label, some color, some (.int minutes), [], []⟩

/-- An end with a label. -/
def endNode (label : String) : NodeData :=
  .terminal ⟨label⟩

/-- The usual life of a ticket, with a loop while waiting. -/
def simpleLifecycle : Template where
  key := "simple-lifecycle"
  name := "Simple Lifecycle"
  description :=
    "Standard ticket lifecycle: New → Triage → In Progress → Waiting → Resolved → Closed"
  nodes := [
    (onCreate, ⟨300, 40⟩),
    (coloredState "New" "bg-blue-500", ⟨300, 140⟩),
    (coloredState "Triage" "bg-amber-500", ⟨300, 240⟩),
    (coloredState "In Progress" "bg-emerald-500", ⟨300, 340⟩),
    (coloredState "Waiting" "bg-purple-500", ⟨300, 440⟩),
    (coloredState "Resolved" "bg-teal-500", ⟨300, 540⟩),
    (endNode "Closed", ⟨300, 640⟩)]
  edges := [
    edge 0 1 none,
    edge 1 2 (some "Review"),
    edge 2 3 (some "Assign"),
    edge 3 4 (some "Waiting on customer"),
    edge 4 3 (some "Customer replied"),
    edge 3 5 (some "Resolve"),
    edge 5 6 (some "Close"),
    edge 5 3 (some "Reopen")]

/-- Urgent tickets are assigned at once, the others queue. -/
def escalationPipeline : Template where
  key := "escalation-pipeline"
  name := "Escalation Pipeline"
  description := "Route urgent tickets to immediate assignment, others to a queue"
  nodes := [
    (onCreate, ⟨300, 40⟩),
    (.condition ⟨"any", [⟨"priority", "is", .string "urgent"⟩]⟩, ⟨300, 160⟩),
    (.action ⟨[⟨"set_priority", .string "urgent", []⟩, ⟨"add_tag", .string "escalated", []⟩]⟩,
      ⟨120, 300⟩),
    (coloredState "Queue" "bg-zinc-400", ⟨480, 300⟩),
    (coloredState "In Progress" "bg-emerald-500", ⟨300, 440⟩),
    (endNode "Resolved", ⟨300, 560⟩)]
  edges := [
    edge 0 1 none,
    ⟨1, 2, some "Urgent", some "yes"⟩,
    ⟨1, 3, some "Normal", some "no"⟩,
    edge 2 4 none,
    edge 3 4 (some "Pick up"),
    edge 4 5 (some "Resolve")]

/-- Deadlines of an hour for new tickets and of four hours for open ones. -/
def slaDriven : Template where
  key := "sla-driven"
  name := "SLA-Driven"
  description := "Ticket lifecycle with SLA timers: 1h for triage, 4h for resolution"
  nodes := [
    (onCreate, ⟨300, 40⟩),
    (timedState "New" "bg-blue-500" 60, ⟨300, 160⟩),
    (timedState "In Progress" "bg-emerald-500" 240, ⟨300, 300⟩),
    (coloredState "Escalated" "bg-red-500", ⟨300, 440⟩),
    (endNode "Resolved", ⟨300, 560⟩)]
  edges := [
    edge 0 1 none,
    edge 1 2 (some "Assign"),
    edge 2 3 (some "Escalate"),
    edge 2 4 (some "Resolve"),
    edge 3 4 (some "Resolve")]

/-- All templates. -/
def all : List Template :=
  [simpleLifecycle, escalationPipeline, slaDriven]

/-- The template with a key. -/
def ofKey? (key : String) : Option Template :=
  all.find? fun t => t.key == key

/-- The number of ids that a workflow made from a template takes. -/
def idCount (t : Template) : Nat :=
  t.nodes.length + t.edges.length + 1

/-- Make a workflow from a template at a time. -/
def instantiate (t : Template) (ids : IdSupply String) (now : Option Timestamp) : Workflow :=
  let nodeIds := ids.take t.nodes.length
  let edgeIds := (ids.drop t.nodes.length).take t.edges.length
  let idOf (i : Nat) : String := nodeIds.getD i ""
  { id := (ids.drop (t.nodes.length + t.edges.length)).next
    name := t.name
    nodes := Table.ofList
      (List.zipWith (fun id n => (id, Node.mk id n.1 n.2)) nodeIds t.nodes)
    transitions := List.zipWith
      (fun id e => Transition.mk id (idOf e.source) (idOf e.target) e.label e.branchKey [] [])
      edgeIds t.edges
    entryId := idOf 0
    enabled := false
    version := 1
    description := some t.description
    createdAt := now
    updatedAt := now }

end Template

end TicketFlow
