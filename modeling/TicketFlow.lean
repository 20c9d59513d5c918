import TicketFlow.Main
import TicketFlow.Sketch.Agreement
import TicketFlow.Workspace.Script
import TicketFlow.Proofs.Fallible
import TicketFlow.Proofs.Workflow.Issues
import TicketFlow.Proofs.Rule.Compile
import TicketFlow.Proofs.Rule.Branch
import TicketFlow.Proofs.Rule.Ownership
import TicketFlow.Proofs.Store.Sync
import TicketFlow.Proofs.Repair.Pass
import TicketFlow.Proofs.Repair.Plan
import TicketFlow.Proofs.Repair.Growth
import TicketFlow.Proofs.Repair.Validity
import TicketFlow.Proofs.Time.Digits
import TicketFlow.Proofs.Time.RoundTrip
import TicketFlow.Proofs.Schema.Acceptance
import TicketFlow.Proofs.Workflow.Conformance
import TicketFlow.Proofs.Workflow.Grammar
import TicketFlow.Proofs.Repair.Conformance
import TicketFlow.Proofs.Workflow.RoundTrip
import TicketFlow.Proofs.Rule.Origin
import TicketFlow.Proofs.Rule.Tags
import TicketFlow.Proofs.Rule.Failure
import TicketFlow.Proofs.Store.Run
import TicketFlow.Proofs.Store.Failure
import TicketFlow.Proofs.Repair.Compile
import TicketFlow.Proofs.Repair.Settled
import TicketFlow.Proofs.Repair.Branch
import TicketFlow.Proofs.Repair.Issues
import TicketFlow.Proofs.Store.Convergence
import TicketFlow.Proofs.Rule.Effect
import TicketFlow.Proofs.Rule.Namespace
import TicketFlow.Proofs.Workflow.Reading
import TicketFlow.Proofs.Repair.Convergence
import TicketFlow.Proofs.Repair.Extension
import TicketFlow.Proofs.Rule.Conformance
import TicketFlow.Proofs.Number.Range
import TicketFlow.Proofs.Repair.Renaming
import TicketFlow.Proofs.Rule.Identity
import TicketFlow.Proofs.Rule.Independence
import TicketFlow.Proofs.Store.History
import TicketFlow.Proofs.Number.Order
import TicketFlow.Proofs.Repair.Log
import TicketFlow.Proofs.Number.Nearest
import TicketFlow.Proofs.Rule.Hours
import TicketFlow.Proofs.Time.NormalForm
import TicketFlow.Proofs.Rule.Exclusion
import TicketFlow.Proofs.Repair.Orphan
import TicketFlow.Proofs.Schema.Route
import TicketFlow.Proofs.Sketch.Repair
import TicketFlow.Proofs.Sketch.Document
import TicketFlow.Proofs.Sketch.Template
import TicketFlow.Proofs.Sketch.Sync
