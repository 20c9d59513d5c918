import TicketFlow.Repair.Run
import TicketFlow.Rule.Compile
import TicketFlow.Workflow.Issue

/-!
# Reports

The documents that describe results: the issues of a workflow, a repair with its
changes, and the export of a workflow with its compiled rules. The long forms add
what could also be told from the short ones: the order of the nodes, which an
object does not show to every reader, and the messages by severity.
-/

namespace TicketFlow

/-- The document of an issue. -/
def Issue.toValue (issue : Issue) : Value :=
  .object ([Value.textEntry "message" issue.message,
      Value.textEntry "severity" issue.severity.name] ++
    Value.optionEntry "nodeId" (issue.nodeId?.map .string))

/-- The document of a change. -/
def Change.toValue (change : Change) : Value :=
  .object [Value.textEntry "type" change.kind.name,
    Value.textEntry "description" change.description, Value.textEntry "nodeId" change.nodeId]

namespace Workflow

/-- The document that tells whether a workflow is valid, with all of its issues. -/
def validationValue (w : Workflow) : Value :=
  .object [("valid", .bool w.isValid), ("errors", .array (w.issues.map Issue.toValue))]

/-- The long form of `validationValue`. -/
def validationReport (w : Workflow) : Value :=
  .object (w.validationValue.fields ++
    [("errorMessages", .texts (w.errors.map Issue.message)),
      ("warnings", .texts (w.warnings.map Issue.message))])

/-- The document of a workflow beside the order of its nodes. -/
def report (w : Workflow) : Value :=
  .object [("workflow", w.toValue), ("nodeOrder", .texts w.nodes.keys)]

/-- The export of a workflow with its rules at a time. -/
def exportValue (w : Workflow) (rules : List Rule) (exportedAt : Option Timestamp) : Value :=
  .object [Value.textEntry "format" exportFormat,
    ("workflow", w.toValue),
    ("exportedAt", (exportedAt.map Timestamp.toValue).getD .null),
    ("rules", .array (rules.map Rule.toValue))]

end Workflow

namespace Repaired

/-- The document of a repair. -/
def toValue (r : Repaired) : Value :=
  .object [("workflow", r.workflow.toValue), ("changes", .array (r.changes.map Change.toValue))]

/-- The long form of the document of a repair. -/
def report (r : Repaired) : Value :=
  .object (r.toValue.fields ++
    [("nodeOrder", .texts r.workflow.nodes.keys), ("validation", r.workflow.validationReport),
      ("inputUnchanged", .bool true)])

end Repaired

/-- The report about some rules. -/
def Rule.report (rules : List Rule) : Value :=
  .object [("rules", .array (rules.map Rule.toValue))]

end TicketFlow
