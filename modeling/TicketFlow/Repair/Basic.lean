import TicketFlow.Text.Lowered
import TicketFlow.Workflow.Basic

/-!
# Repairs in progress

A `Draft` is a workflow under repair together with the ids that are still to be
given out and the changes made so far. The ids form an endless sequence of which
a draft knows how many are taken, so the same draft always gives out the same
ids, and a statement about fresh ids is one about the sequence.
-/

namespace TicketFlow

/-- An endless sequence of ids, of which the first ones are taken. -/
structure IdSupply (ι : Type) where
  ids : Nat → ι
  drawn : Nat

namespace IdSupply

variable {ι : Type}

/-- The next id. -/
def next (s : IdSupply ι) : ι :=
  s.ids s.drawn

/-- The supply after its next id was taken. -/
def advance (s : IdSupply ι) : IdSupply ι :=
  { s with drawn := s.drawn + 1 }

/-- The next ids, a number of them. -/
def take (s : IdSupply ι) (count : Nat) : List ι :=
  (List.range count).map fun i => s.ids (s.drawn + i)

/-- The supply after a number of ids was taken. -/
def drop (s : IdSupply ι) (count : Nat) : IdSupply ι :=
  { s with drawn := s.drawn + count }

/-- A supply of some given ids, and then of those that count on from one. -/
def ofList (given : List ι) (counted : Nat → ι) : IdSupply ι :=
  ⟨fun i => given.getD i (counted (i - given.length + 1)), 0⟩

@[simp] theorem length_take (s : IdSupply ι) (count : Nat) : (s.take count).length = count := by
  simp [take]

end IdSupply

/-- The ids that a stem with a number makes. -/
def stemmedId (stem : String) (n : Nat) : String :=
  stem ++ toString n

/-- The kinds of changes that a repair makes. -/
inductive ChangeKind where
  | addEndNode
  | connectDeadEnd
  | connectEndNode
  | addDeadline
  | addEscalation
  | fixBranch
deriving DecidableEq, Repr

namespace ChangeKind

/-- The name of a kind of change. -/
def name : ChangeKind → String
  | .addEndNode => "add_end_node"
  | .connectDeadEnd => "connect_dead_end"
  | .connectEndNode => "connect_end_node"
  | .addDeadline => "add_sla"
  | .addEscalation => "add_escalation"
  | .fixBranch => "fix_branch"

end ChangeKind

/-- A change that a repair made, and the node that it is about. -/
structure Change where
  kind : ChangeKind
  description : String
  nodeId : String
deriving DecidableEq, Repr

/-- A workflow under repair. -/
structure Draft where
  workflow : Workflow
  ids : IdSupply String
  changes : List Change
  /-- The id of the end node that was added, if one was. -/
  addedEnd? : Option String

namespace Draft

/-- The start of a repair. -/
def start (w : Workflow) (ids : IdSupply String) : Draft :=
  ⟨w, ids, [], none⟩

/-- Note a change. -/
def record (d : Draft) (kind : ChangeKind) (description nodeId : String) : Draft :=
  { d with changes := d.changes ++ [⟨kind, description, nodeId⟩] }

/-- Add a transition between two keys, under the next id. -/
def link (d : Draft) (source target label : String) (branchKey : Option String) : Draft :=
  { d with
    workflow := { d.workflow with
      transitions := d.workflow.transitions ++
        [{ Transition.plain d.ids.next source target (some label) with branchKey }] }
    ids := d.ids.advance }

/-- Add a node, under the next id. -/
def addNode (d : Draft) (data : NodeData) (position : Position) : Draft :=
  { d with
    workflow := { d.workflow with
      nodes := d.workflow.nodes.insert d.ids.next ⟨d.ids.next, data, position⟩ }
    ids := d.ids.advance }

@[simp] theorem record_workflow (d : Draft) (kind : ChangeKind) (description nodeId : String) :
    (d.record kind description nodeId).workflow = d.workflow := rfl

@[simp] theorem record_ids (d : Draft) (kind : ChangeKind) (description nodeId : String) :
    (d.record kind description nodeId).ids = d.ids := rfl

@[simp] theorem link_nodes (d : Draft) (source target label : String) (b : Option String) :
    (d.link source target label b).workflow.nodes = d.workflow.nodes := rfl

@[simp] theorem link_changes (d : Draft) (source target label : String) (b : Option String) :
    (d.link source target label b).changes = d.changes := rfl

@[simp] theorem addNode_transitions (d : Draft) (data : NodeData) (position : Position) :
    (d.addNode data position).workflow.transitions = d.workflow.transitions := rfl

@[simp] theorem addNode_changes (d : Draft) (data : NodeData) (position : Position) :
    (d.addNode data position).changes = d.changes := rfl

end Draft

end TicketFlow
