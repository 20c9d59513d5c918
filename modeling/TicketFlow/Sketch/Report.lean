import TicketFlow.Report
import TicketFlow.Sketch.Checked
import TicketFlow.Sketch.Compile
import TicketFlow.Sketch.Issue
import TicketFlow.Sketch.Repair

/-!
# Reports about sketches

What can be asked about a workflow can be asked about a sketch. A sketch that is a
workflow is treated as one; with any other it is attempted, and the attempt would
give the same for a workflow. So the laws of workflows hold for every sketch that is
one: the statements below give the answers about the sketch of a workflow.
-/

namespace TicketFlow

/-- The sketch of an issue. -/
def Issue.sketch (issue : Issue) : Sketch.Issue :=
  ⟨issue.message, issue.severity, .ofOption .string issue.nodeId?⟩

/-- The sketch of a change. -/
def Change.sketch (change : Change) : Sketch.Change :=
  ⟨change.kind, change.description, .string change.nodeId⟩

/-- The sketch of a repair. -/
def Repaired.sketch (r : Repaired) : Sketch.Repaired :=
  ⟨r.workflow.sketch, r.changes.map Change.sketch⟩

namespace Sketch

/-- The document of a sketch. -/
def document (g : Sketch) : Attempt Value :=
  match g.workflow? with
  | some w => .ok w.toValue
  | none => g.toValue

/-- The issues of a sketch. -/
def findings (g : Sketch) : Attempt (List Issue) :=
  match g.workflow? with
  | some w => .ok (w.issues.map TicketFlow.Issue.sketch)
  | none => g.issues

/-- The rules of a sketch. -/
def rules (g : Sketch) : Attempt (List Rule) :=
  match g.workflow? with
  | some w => (w.compile.mapError .compile).map fun rules => rules.map TicketFlow.Rule.sketch
  | none => g.compile

/-- Repair a sketch at a time, under ids of a source. -/
def repaired (g : Sketch) (ids : IdSource) (now : Option Timestamp) : Attempt Repaired :=
  match g.workflow?, ids.texts? with
  | some w, some ids => .ok (w.repair ids now).sketch
  | _, _ => g.repair ids.values now

namespace Issue

/-- Whether an issue is an error. -/
def isError (issue : Issue) : Bool :=
  issue.severity == .error

/-- The document of an issue. -/
def toValue (issue : Issue) : Value :=
  .object ([("message", .string issue.message), ("severity", .string issue.severity.name)] ++
    unlessNull "nodeId" issue.nodeId)

/-- The document that tells whether there is an error among some issues, and lists them. -/
def listing (issues : List Issue) : Value :=
  .object [("valid", .bool !issues.any isError), ("errors", .array (issues.map toValue))]

/-- The long form of `listing`. -/
def report (issues : List Issue) : Value :=
  .object ((listing issues).fields ++
    [("errorMessages", .texts ((issues.filter isError).map message)),
      ("warnings", .texts ((issues.filter fun i => i.severity == .warning).map message))])

end Issue

/-- The document of a change. -/
def Change.toValue (change : Change) : Value :=
  .object ([("type", .string change.kind.name), ("description", .string change.description)] ++
    unlessNull "nodeId" change.nodeId)

/-- The document of a sketch beside the order of its nodes. -/
def report (g : Sketch) : Attempt Value := do
  return .object [("workflow", ← g.document), ("nodeOrder", .array g.nodes.keys)]

/-- The report about the issues of a sketch. -/
def validationReport (g : Sketch) : Attempt Value :=
  g.findings.map Issue.report

/-- The documents of some rules. -/
def Rule.toValues (rules : List Rule) : Attempt Value := do
  return .array (← rules.mapM Rule.toValue)

/-- The report about some rules. -/
def Rule.report (rules : List Rule) : Attempt Value := do
  return .object [("rules", ← toValues rules)]

/-- The export of a sketch with its rules at a time. -/
def exportValue (g : Sketch) (rules : List Rule) (exportedAt : Option Timestamp) :
    Attempt Value := do
  return .object [("format", .string exportFormat), ("workflow", ← g.document),
    ("exportedAt", (exportedAt.map Timestamp.toValue).getD .null),
    ("rules", ← Rule.toValues rules)]

/-- The document of a repair. -/
def Repaired.toValue (r : Repaired) : Attempt Value := do
  return .object [("workflow", ← r.sketch.document),
    ("changes", .array (r.changes.map Change.toValue))]

/-- The report about a repair. -/
def Repaired.report (r : Repaired) : Attempt Value := do
  return .object ((← r.toValue).fields ++
    [("nodeOrder", .array r.sketch.nodes.keys), ("validation", ← r.sketch.validationReport),
      ("inputUnchanged", .bool true)])

/-- The ids of some transitions. -/
def idsOf (transitions : List Transition) : Value :=
  .array (transitions.map Transition.id)

/-- What a sketch looks like around a node. -/
def nodeOverview (g : Sketch) (e : Value × Node) : Value :=
  .object [("key", e.1), ("type", .string e.2.type.name), ("label", e.2.data.label),
    ("outgoing", idsOf (g.outgoing e.1)), ("incoming", idsOf (g.incoming e.1))]

/-- The entry, the ends, and all nodes with their neighbours. -/
def overview (g : Sketch) : Attempt Value := do
  let first? ← g.entry?
  return .object [("entry", (first?.map Node.id).getD .null),
    ("entryLabel", (first?.map fun n => n.data.label).getD (.string "(unknown)")),
    ("ends", .array (g.endNodes.map Node.id)),
    ("nodes", .array (g.nodes.map g.nodeOverview))]

/-- The document of the sketch of a workflow is that of the workflow. -/
theorem document_sketch (w : Workflow) : w.sketch.document = .ok w.toValue := by
  simp [document, workflow?_sketch]

/-- The issues of the sketch of a workflow are those of the workflow. -/
theorem findings_sketch (w : Workflow) :
    w.sketch.findings = .ok (w.issues.map TicketFlow.Issue.sketch) := by
  simp [findings, workflow?_sketch]

/-- The rules of the sketch of a workflow are those of the workflow. -/
theorem rules_sketch (w : Workflow) {rules : List TicketFlow.Rule} (h : w.compile = .ok rules) :
    w.sketch.rules = .ok (rules.map TicketFlow.Rule.sketch) := by
  rw [Sketch.rules, workflow?_sketch]
  dsimp only
  rw [h]
  rfl

/-- The repair of the sketch of a workflow under texts is that of the workflow. -/
theorem repaired_sketch (w : Workflow) {ids : IdSource} {texts : IdSupply String}
    (h : ids.texts? = some texts) (now : Option Timestamp) :
    w.sketch.repaired ids now = .ok (w.repair texts now).sketch := by
  simp [repaired, workflow?_sketch, h]

end Sketch

end TicketFlow
