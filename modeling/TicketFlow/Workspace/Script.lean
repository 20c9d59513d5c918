import TicketFlow.Sketch.Edit
import TicketFlow.Workspace.Sync

/-!
# Scripts

A script is a list of steps, each an object that names what to do with a workspace
under `do` and has a field for each argument. A step changes the workspace and has
a document as its answer, or fails and leaves the workspace alone. An argument is
looked at when it is needed, so of several faults of a step the first one decides.
-/

namespace TicketFlow

namespace Sketch

/-- The field of a sketch with a name in scripts. -/
def Field.ofName? : String → Option Field
  | "id" => some .id
  | "name" => some .name
  | "enabled" => some .enabled
  | "version" => some .version
  | "entry_node_id" => some .entryId
  | "description" => some .description
  | _ => none

/-- The field of payloads with a name in scripts. -/
def PayloadField.ofName? : String → Option PayloadField
  | "label" => some .label
  | "color" => some .color
  | "sla_minutes" => some .slaMinutes
  | "on_enter_actions" => some .onEnterActions
  | "mandatory_fields" => some .mandatoryFields
  | "event" => some .event
  | "conditions" => some .conditions
  | "logic" => some .logic
  | "actions" => some .actions
  | "type" => some .kind
  | "minutes" => some .minutes
  | _ => none

end Sketch

namespace Script

/-- The name of a field to be set. -/
def fieldName (step : Value) : Attempt String := do
  match (← step.demand "field").asString? with
  | some name => return name
  | none => throw .operation

/-- The ids that a step draws from. -/
def ids (step : Value) : Attempt IdSource := do
  return .ofStem (← step.fieldElements "ids") (step.fieldOr "prefix" (.string "gen-")).display

/-- The time of a step, unless it says another one. -/
def usualTime : Value :=
  .string "2026-03-01T09:30:00Z"

/-- The time at which a step takes place. -/
def now (step : Value) : Attempt (Option Timestamp) :=
  Timestamp.readValue (step.fieldOr "now" usualTime)

/-- The answer of a step that only changes something. -/
def done : Value :=
  .object [("ok", .bool true)]

/-- The answer that lists the keys of the nodes of a sketch. -/
def nodeKeys (g : Sketch) : Value :=
  .object [("nodes", .array g.nodes.keys)]

/-- The answer that lists the ids of the transitions of a sketch. -/
def transitionIds (g : Sketch) : Value :=
  .object [("transitions", Sketch.idsOf g.transitions)]

/-- The ids of some rules, as a field. -/
def ruleIds (rules : List Sketch.Rule) : String × Value :=
  ("ruleIds", .array (rules.map Sketch.Rule.id))

/-- The number of the sketch that a step is about. -/
def subject (s : Workspace) (step : Value) : Attempt Nat := do
  s.number (← step.demand "g")

/-- The sketch that a step is about. -/
def subjectSketch (s : Workspace) (step : Value) : Attempt Sketch := do
  return s.sketch (← subject s step)

/-- Change the sketch that a step is about. -/
def change (s : Workspace) (step : Value) (edit : Sketch → Attempt Sketch)
    (answer : Sketch → Value) : Attempt (Workspace × Value) := do
  let n ← subject s step
  let g ← edit (s.sketch n)
  return (s.set n g, answer g)

/-- Answer with a report about the sketch that a step is about. -/
def consult (s : Workspace) (step : Value) (report : Sketch → Attempt Value) :
    Attempt (Workspace × Value) := do
  return (s, ← report (← subjectSketch s step))

/-- Add a workflow under a name. -/
def load (s : Workspace) (step : Value) : Attempt (Workspace × Value) := do
  let w ← (Workflow.read (← step.demand "doc")).mapError .document
  return (← s.add (← step.demand "g") w.sketch, nodeKeys w.sketch)

/-- Add a sketch without nodes under a name. -/
def create (s : Workspace) (step : Value) : Attempt (Workspace × Value) := do
  let g := Sketch.blank (← step.demand "id") (← step.demand "name") (← step.demand "entry")
  return (← s.add (← step.demand "g") g, ← g.report)

/-- Set a field of a sketch. -/
def setField (step : Value) (g : Sketch) : Attempt Sketch := do
  let field? := Sketch.Field.ofName? (← fieldName step)
  let v ← step.demand "value"
  return (field?.map (g.set v)).getD g

/-- Set a field of the payload of a node. -/
def setPayload (step : Value) (g : Sketch) : Attempt Sketch := do
  let key ← step.demand "key"
  if (← g.node? key).isNone then throw (.missing key)
  let field? := Sketch.PayloadField.ofName? (← fieldName step)
  let v ← step.demand "value"
  g.setPayload key fun data => (field?.map (data.set v)).getD data

/-- Put a node under a key. -/
def putNode (step : Value) (g : Sketch) : Attempt Sketch := do
  let n ← Sketch.Node.read (← step.demand "node")
  g.putNode (← step.demand "key") n

/-- Repair a sketch and keep the repaired one under a name, the old one's if there is
no other. -/
def repair (s : Workspace) (step : Value) : Attempt (Workspace × Value) := do
  let name ← step.demand "g"
  let n ← s.number name
  let r ← (s.sketch n).repaired (← ids step) (← now step)
  let report ← r.report
  return (← s.add (step.fieldOr "as" name) r.sketch, report)

/-- Store a sketch under its id. -/
def upsert (s : Workspace) (step : Value) : Attempt (Workspace × Value) := do
  let n ← subject s step
  return (← s.upsert n, .object [("id", (s.sketch n).id)])

/-- Remove what is stored under an id. -/
def delete (s : Workspace) (step : Value) : Attempt (Workspace × Value) := do
  let id ← step.demand "id"
  return (s.delete id, .object [("deleted", .bool (← s.isStored id))])

/-- Look up what is stored under an id. -/
def find (s : Workspace) (step : Value) : Attempt (Workspace × Value) := do
  match s.storedSketches.get? (← (← step.demand "id").asKey) with
  | none => return (s, .object [("found", .bool false)])
  | some g => return (s, .object (("found", .bool true) :: (← g.report).fields))

/-- The ids of all stored sketches and of those that are enabled. -/
def listing (s : Workspace) : Value :=
  .object [("all", .array (s.storedSketches.values.map Sketch.id)),
    ("active", .array (s.active.map Sketch.id))]

/-- Read the rules of a document. -/
def readRules (v : Value) : Attempt (List Sketch.Rule) := do
  (← v.elements).mapM Sketch.Rule.read

/-- Replace all rules. -/
def setRules (s : Workspace) (step : Value) : Attempt (Workspace × Value) := do
  let rules ← readRules (← step.demand "rules")
  return ({ s with rules }, .object [ruleIds rules])

/-- The answer after rules were synchronised. -/
def synced (outcome : Workspace × Nat) : Workspace × Value :=
  (outcome.1, .object [("ruleCount", .number (.int outcome.2)), ruleIds outcome.1.rules])

/-- Carry out a step that can be done with any rules. -/
def attempt (s : Workspace) (step : Value) (action : String) : Attempt (Workspace × Value) :=
  match action with
  | "load" => load s step
  | "empty" => create s step
  | "set" => change s step (setField step) fun _ => done
  | "set_data" => change s step (setPayload step) fun _ => done
  | "put_node" => change s step (putNode step) nodeKeys
  | "del_node" => change s step (fun g => do g.removeNode (← step.demand "key")) nodeKeys
  | "put_transition" =>
    change s step (fun g => do
      return g.putTransition (← Sketch.Transition.read (← step.demand "transition")))
      transitionIds
  | "del_transition" =>
    change s step (fun g => do return g.removeTransition (← step.demand "id")) transitionIds
  | "dump" => consult s step Sketch.report
  | "query" => consult s step Sketch.overview
  | "validate" => consult s step Sketch.validationReport
  | "decompose" => consult s step fun g => do Sketch.Rule.report (← g.rules)
  | "optimize" => repair s step
  | "upsert" => upsert s step
  | "delete" => delete s step
  | "get" => find s step
  | "list" => .ok (s, listing s)
  | "set_rules" => setRules s step
  | "rules" => do return (s, ← Sketch.Rule.report s.rules)
  | "break" => do
    return ({ s with fault? := some (← step.demand "message").display }, done)
  | "unbreak" => .ok ({ s with fault? := none }, done)
  | _ => .error .name

/-- Carry out a step. -/
def run (s : Workspace) (step : Value) : Except WorkspaceError (Workspace × Value) := do
  match (← step.demand "do").asString? with
  | none => throw (.misfit .name)
  | some "sync_all" => return synced (← s.syncAll)
  | some "sync_workflow" =>
    return synced (← s.syncWorkflow (← step.demand "id") (← step.demand "enabled"))
  | some action => attempt s step action

/-- Carry out steps one after the other, each on what the ones before it have left. -/
def runAll : Workspace → List Value → List (Except WorkspaceError Value)
  | _, [] => []
  | s, step :: rest =>
    match run s step with
    | .ok (s, answer) => .ok answer :: runAll s rest
    | .error error => .error error :: runAll s rest

/-- Set up a workspace from the documents of the rules and of stored workflows that
a script begins with. The rules are read first. -/
def setUp (v : Value) : Attempt Workspace := do
  let rules ← readRules (v.fieldOr "rules" (.array []))
  let workflows ← (← v.fieldElements "workflows").mapM fun document =>
    (Workflow.read document).mapError .document
  return workflows.foldl Workspace.deposit (.start rules)

/-- Carry out the script of a document. -/
def answers (v : Value) : Attempt (List (Except WorkspaceError Value)) := do
  let s ← setUp v
  return runAll s (← (← v.demand "steps").elements)

end Script

end TicketFlow
