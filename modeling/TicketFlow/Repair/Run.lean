import TicketFlow.Repair.Deadline

/-!
# Repairing workflows

Six repairs run in a fixed order, and each may rely on the ones before it:

1. add an end node when there is none;
2. connect every dead end to the first end node;
3. give the states deadlines;
4. add a state that takes up escalated tickets;
5. complete conditions that lack a branch;
6. connect an end node that was added and that nothing has reached so far.

A repair decides which nodes it is about before it changes anything. That is
enough, because a transition added for one node leaves that node only.
-/

namespace TicketFlow

namespace Workflow

/-- The largest vertical coordinate of a node, at least zero. -/
def lowest (w : Workflow) : Number :=
  w.nodes.values.foldl (fun y n => y.maxFirst n.position.y) 0

/-- Whether a node is no end and nothing leaves its key. -/
def isDeadEnd (w : Workflow) (key : String) (n : Node) : Bool :=
  !n.isEnd && (w.outgoing key).isEmpty

/-- Whether a node is a condition with fewer than two branches. -/
def lacksBranch (w : Workflow) (key : String) (n : Node) : Bool :=
  n.type == .condition && (w.outgoing key).length < 2

/-- The branch that is missing at a key: a no if there is a yes, else a yes. -/
def missingBranch (w : Workflow) (key : String) : String :=
  if (w.outgoing key).any fun t => t.branchKey == some "yes" then "no" else "yes"

end Workflow

/-- The label of a branch that a repair adds. -/
def branchLabel (branchKey : String) : String :=
  if branchKey = "no" then "No" else "Yes"

namespace Draft

/-- Add an end node below all others, unless there is one. -/
def addMissingEnd (d : Draft) : Draft :=
  if d.workflow.firstEnd?.isSome then d
  else
    let id := d.ids.next
    let added := d.addNode (.terminal ⟨"Closed"⟩) ⟨300, d.workflow.lowest.addInt 140⟩
    { added.record .addEndNode "Added missing end node" id with addedEnd? := some id }

/-- Connect a dead end to an end node. -/
def closeDeadEnd (target : String) (d : Draft) (e : String × Node) : Draft :=
  (d.link e.1 target "Close" none).record .connectDeadEnd
    ("Connected dead-end \"" ++ e.2.label ++ "\" to end node") e.1

/-- Connect every dead end to the first end node. -/
def connectDeadEnds (d : Draft) : Draft :=
  match d.workflow.firstEnd? with
  | none => d
  | some target =>
    (d.workflow.nodes.entries.filter fun e => d.workflow.isDeadEnd e.1 e.2).foldl
      (closeDeadEnd target.id) d

/-- Whether a node is a state with a deadline. -/
def isTimedState (n : Node) : Bool :=
  n.data.state?.any StateData.hasDeadline

/-- Add a state that takes up escalated tickets, reached from every state with a
deadline and left to the first end node. It is not needed without deadlines, nor
beside a state whose label speaks of escalation. -/
def addEscalation (d : Draft) : Draft :=
  let nodes := d.workflow.nodes.values
  let timed := nodes.filter isTimedState
  if timed.isEmpty then d
  else if nodes.any fun n => n.data.state?.any StateData.isEscalation then d
  else
    match d.workflow.firstEnd? with
    | none => d
    | some target =>
      let id := d.ids.next
      let place : Position := ⟨target.position.x.addInt 200, target.position.y.addInt (-70)⟩
      let added := d.addNode (.state ⟨"Escalated", some "bg-red-500", none, [], []⟩) place
      let breached := timed.foldl (fun d n => d.link n.id id "SLA Breach" none) added
      (breached.link id target.id "Resolve" none).record .addEscalation
        "Added escalation path for SLA breach handling" id

/-- Add the missing branch of a condition. -/
def completeBranch (w : Workflow) (target : String) (d : Draft) (e : String × Node) : Draft :=
  let branchKey := w.missingBranch e.1
  (d.link e.1 target (branchLabel branchKey) (some branchKey)).record .fixBranch
    ("Added missing \"" ++ branchLabel branchKey ++ "\" branch to condition node") e.1

/-- Complete the conditions that have fewer than two branches. -/
def completeBranches (d : Draft) : Draft :=
  match d.workflow.firstEnd? with
  | none => d
  | some target =>
    (d.workflow.nodes.entries.filter fun e => d.workflow.lacksBranch e.1 e.2).foldl
      (completeBranch d.workflow target.id) d

/-- Whether a node is to be preferred over another as the one that an added end
node is connected to: a state, then a node that is not the entry, then the lower
one on the canvas. -/
def preferred (entryId : String) (candidate best : Node) : Bool :=
  if candidate.isState != best.isState then candidate.isState
  else if (candidate.id != entryId) != (best.id != entryId) then candidate.id != entryId
  else best.position.y.lt candidate.position.y

/-- The best of some nodes; of equals the first. -/
def bestSource? (entryId : String) : List Node → Option Node
  | [] => none
  | n :: rest =>
    some (rest.foldl (fun best c => if preferred entryId c best then c else best) n)

/-- Connect an end node that was added, unless something has reached it. -/
def connectAddedEnd (d : Draft) : Draft :=
  match d.addedEnd? with
  | none => d
  | some endId =>
    let w := d.workflow
    if !w.nodes.contains endId || !(w.incoming endId).isEmpty then d
    else
      match bestSource? w.entryId (w.nodes.values.filter fun n => n.id != endId && !n.isEnd) with
      | none => d
      | some source =>
        (d.link source.id endId "Close" none).record .connectEndNode
          ("Connected \"" ++ source.label ++ "\" to new end node") source.id

/-- All repairs. -/
def repair (d : Draft) : Draft :=
  d.addMissingEnd.connectDeadEnds.addDeadlines.addEscalation.completeBranches.connectAddedEnd

end Draft

/-- A repaired workflow and the changes that were made, in order. -/
structure Repaired where
  workflow : Workflow
  changes : List Change
  /-- The ids that are left. -/
  ids : IdSupply String

namespace Workflow

/-- Repair a workflow at a time. Its version grows by one in any case. -/
def repair (w : Workflow) (ids : IdSupply String) (now : Option Timestamp) : Repaired :=
  let d := (Draft.start w ids).repair
  ⟨{ d.workflow with updatedAt := now, version := d.workflow.version.addInt 1 }, d.changes, d.ids⟩

end Workflow

end TicketFlow
