import TicketFlow.Repair.Run
import TicketFlow.Sketch.IdSource
import TicketFlow.Workflow.Issue

/-!
# Repairing sketches

A sketch is repaired like a workflow: the same six repairs run in the same order.
A repair fails when it needs a value that does not fit. Coordinates and versions
are counted with, so they have to be quantities; the labels of states are searched,
so they have to be texts; and an id under which a node is added has to be a key.
Where no repair needs a value, it may be anything.
-/

namespace TicketFlow

namespace Sketch

/-- A change that a repair made, and the key of the node that it is about. -/
structure Change where
  kind : ChangeKind
  description : String
  nodeId : Value

/-- A sketch under repair. -/
structure Draft where
  sketch : Sketch
  ids : IdSupply Value
  changes : List Change
  /-- The id of the end node that was added; `null` stands for none. -/
  addedEnd : Value

namespace Payload

/-- Whether a payload is a state's with a deadline. -/
def hasDeadline : Payload → Bool
  | .state _ _ slaMinutes _ _ => slaMinutes.isSet
  | _ => false

/-- The label of a state. -/
def stateLabel? : Payload → Option Value
  | .state label .. => some label
  | _ => none

/-- A payload with a deadline, if it is a state's. -/
def withDeadline (minutes : Nat) : Payload → Payload
  | .state label color _ actions mandatory =>
    .state label color (.number (.int minutes)) actions mandatory
  | data => data

end Payload

/-- The largest vertical coordinate of a node, at least zero. -/
def lowest (g : Sketch) : Attempt Number := do
  return (← g.nodes.values.mapM fun n => n.y.quantity).foldl Number.maxFirst 0

/-- Whether a node is no end and nothing leaves its key. -/
def isDeadEnd (g : Sketch) (key : Value) (n : Node) : Bool :=
  !n.isEnd && (g.outgoing key).isEmpty

/-- Whether a node is a condition with fewer than two branches. -/
def lacksBranch (g : Sketch) (key : Value) (n : Node) : Bool :=
  n.type == .condition && (g.outgoing key).length < 2

/-- The branch that is missing at a key: a no if there is a yes, else a yes. -/
def missingBranch (g : Sketch) (key : Value) : String :=
  if (g.outgoing key).any fun t => t.branchKey.isText "yes" then "no" else "yes"

/-- The first state whose label speaks of escalation. Labels are searched in order,
up to that one. -/
def escalation? : List Node → Attempt (Option Node)
  | [] => .ok none
  | n :: rest =>
    match n.data.stateLabel? with
    | none => escalation? rest
    | some label => do
      if Text.mentions (← label.searchable) "escalat" then return some n else escalation? rest

/-- Whether a node is to be preferred over another as the one that an added end
node is connected to: a state, then a node that is not the entry, then the lower
one on the canvas. -/
def preferred (entryId : Value) (candidate best : Node) : Attempt Bool :=
  if candidate.isState != best.isState then .ok candidate.isState
  else if candidate.id.same entryId != best.id.same entryId then .ok (best.id.same entryId)
  else do return (← best.y.quantity).lt (← candidate.y.quantity)

/-- The best of some nodes; of equals the first. -/
def bestSource? (entryId : Value) : List Node → Attempt (Option Node)
  | [] => .ok none
  | n :: rest => do
    return some (← rest.foldlM
      (fun best c => do return if ← preferred entryId c best then c else best) n)

namespace Draft

/-- The start of a repair. -/
def start (g : Sketch) (ids : IdSupply Value) : Draft :=
  ⟨g, ids, [], .null⟩

/-- Note a change. -/
def record (d : Draft) (kind : ChangeKind) (description : String) (nodeId : Value) : Draft :=
  { d with changes := d.changes ++ [⟨kind, description, nodeId⟩] }

/-- Add a transition between two keys, under the next id. -/
def link (d : Draft) (source target : Value) (label : String) (branchKey : Value) : Draft :=
  { d with
    sketch := { d.sketch with
      transitions := d.sketch.transitions ++
        [.plain d.ids.next source target label branchKey] }
    ids := d.ids.advance }

/-- Add a node, under the next id. -/
def addNode (d : Draft) (data : Payload) (x y : Value) : Attempt Draft := do
  let id ← d.ids.next.asKey
  return { d with
    sketch := { d.sketch with nodes := d.sketch.nodes.put id ⟨id, data, x, y⟩ }
    ids := d.ids.advance }

/-- Add an end node below all others, unless there is one. -/
def addMissingEnd (d : Draft) : Attempt Draft :=
  if d.sketch.firstEnd?.isSome then .ok d
  else do
    let id := d.ids.next
    let y := (← d.sketch.lowest).addInt 140
    let added ← d.addNode (.terminal (.string "Closed")) (.number 300) (.number y)
    return { added.record .addEndNode "Added missing end node" id with addedEnd := id }

/-- Connect every dead end to the first end node. -/
def connectDeadEnds (d : Draft) : Draft :=
  match d.sketch.firstEnd? with
  | none => d
  | some target =>
    (d.sketch.nodes.filter fun e => d.sketch.isDeadEnd e.1 e.2).foldl
      (fun d e => (d.link e.1 target.id "Close" .null).record .connectDeadEnd
        ("Connected dead-end " ++ inQuotes e.2.title ++ " to end node") e.1) d

/-- Give the node under a key the deadline that its label suggests, if it is a state
without one. -/
def addDeadline (d : Draft) (e : Value × Node) : Attempt Draft :=
  match e.2.data.stateLabel? with
  | none => .ok d
  | some label =>
    if e.2.data.hasDeadline then .ok d
    else do
      let minutes := StateData.suggestedMinutes (← label.searchable)
      let n := { e.2 with data := e.2.data.withDeadline minutes }
      let changed := { d with sketch := { d.sketch with nodes := d.sketch.nodes.put e.1 n } }
      return changed.record .addDeadline
        ("Set " ++ toString minutes ++ "m SLA on " ++ inQuotes label.display) e.1

/-- Give every state without a deadline the one that its label suggests. -/
def addDeadlines (d : Draft) : Attempt Draft :=
  d.sketch.nodes.foldlM addDeadline d

/-- Add a state that takes up escalated tickets, reached from every state with a
deadline and left to the first end node. It is not needed without deadlines, nor
beside a state whose label speaks of escalation. -/
def addEscalation (d : Draft) : Attempt Draft := do
  let nodes := d.sketch.nodes.values
  let timed := nodes.filter fun n => n.data.hasDeadline
  if timed.isEmpty then return d
  if (← escalation? nodes).isSome then return d
  match d.sketch.firstEnd? with
  | none => return d
  | some target =>
    let id := d.ids.next
    let x := (← target.x.quantity).addInt 200
    let y := (← target.y.quantity).addInt (-70)
    let state := Payload.state (.string "Escalated") (.string "bg-red-500") .null (.read [])
      (.array [])
    let added ← d.addNode state (.number x) (.number y)
    let breached := timed.foldl (fun d n => d.link n.id id "SLA Breach" .null) added
    return (breached.link id target.id "Resolve" .null).record .addEscalation
      "Added escalation path for SLA breach handling" id

/-- Add the missing branch of a condition. -/
def completeBranch (g : Sketch) (target : Value) (d : Draft) (e : Value × Node) : Draft :=
  let branchKey := g.missingBranch e.1
  (d.link e.1 target (branchLabel branchKey) (.string branchKey)).record .fixBranch
    ("Added missing " ++ inQuotes (branchLabel branchKey) ++ " branch to condition node") e.1

/-- Complete the conditions that have fewer than two branches. -/
def completeBranches (d : Draft) : Draft :=
  match d.sketch.firstEnd? with
  | none => d
  | some target =>
    (d.sketch.nodes.filter fun e => d.sketch.lacksBranch e.1 e.2).foldl
      (completeBranch d.sketch target.id) d

/-- Connect an end node that was added, unless something has reached it. One that was
added under `null` is left as it is. -/
def connectAddedEnd (d : Draft) : Attempt Draft :=
  match d.addedEnd with
  | .null => .ok d
  | endId => do
    let g := d.sketch
    if !g.nodes.contains endId || !(g.incoming endId).isEmpty then return d
    match ← bestSource? g.entryId
        (g.nodes.values.filter fun n => !n.id.same endId && !n.isEnd) with
    | none => return d
    | some source =>
      return (d.link source.id endId "Close" .null).record .connectEndNode
        ("Connected " ++ inQuotes source.title ++ " to new end node") source.id

/-- All repairs. -/
def repair (d : Draft) : Attempt Draft := do
  let closed := (← d.addMissingEnd).connectDeadEnds
  let timed ← (← closed.addDeadlines).addEscalation
  timed.completeBranches.connectAddedEnd

end Draft

/-- A repaired sketch and the changes that were made, in order. -/
structure Repaired where
  sketch : Sketch
  changes : List Change

/-- Repair a sketch at a time. Its version grows by one in any case. -/
def repair (g : Sketch) (ids : IdSupply Value) (now : Option Timestamp) : Attempt Repaired := do
  let d ← (Draft.start g ids).repair
  let version := (← d.sketch.version.quantity).addInt 1
  return ⟨{ d.sketch with updatedAt := now, version := .number version }, d.changes⟩

end Sketch

end TicketFlow
