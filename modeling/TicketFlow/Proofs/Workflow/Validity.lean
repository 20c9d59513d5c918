import TicketFlow.Proofs.Table
import TicketFlow.Workflow.Issue

/-!
# Valid workflows

A workflow is valid exactly when its entry resolves, all its references resolve, no
node is an orphan and a trigger at the entry has an exit. All other issues are
warnings.
-/

namespace TicketFlow

namespace Workflow

variable {w : Workflow}

/-- The entry key is set, and there is a node under it. -/
def EntryResolves (w : Workflow) : Prop :=
  w.entryId ≠ "" ∧ w.entryId ∈ w.nodes.keys

/-- There are nodes at both ends of every transition. -/
def ReferencesResolve (w : Workflow) : Prop :=
  ∀ t ∈ w.transitions, t.source ∈ w.nodes.keys ∧ t.target ∈ w.nodes.keys

/-- A key is the entry or stands at an end of some transition. -/
def Referenced (w : Workflow) (key : String) : Prop :=
  w.entryId = key ∨ ∃ t ∈ w.transitions, t.source = key ∨ t.target = key

theorem isReferenced_iff {key : String} : w.isReferenced key = true ↔ w.Referenced key := by
  rw [isReferenced, Bool.or_eq_true, beq_iff_eq, eq_comm, List.any_eq_true, Referenced]
  simp only [Bool.or_eq_true, beq_iff_eq]

theorem any_isError_issueIf (condition : Bool) (issue : Issue) :
    (issueIf condition issue).any Issue.isError = (condition && issue.isError) := by
  cases condition <;> simp [issueIf]

theorem any_isError_entryIssues :
    w.entryIssues.any Issue.isError = false ↔ w.EntryResolves := by
  rw [entryIssues, EntryResolves]
  by_cases empty : w.entryId = ""
  · simp [empty, Issue.isError, Issue.error]
  · rw [if_neg empty, any_isError_issueIf]
    simp [empty, Issue.isError, Issue.error, Table.contains_iff]

theorem any_isError_referenceIssues {t : Transition} :
    (w.referenceIssues t).any Issue.isError = false ↔
      t.source ∈ w.nodes.keys ∧ t.target ∈ w.nodes.keys := by
  rw [referenceIssues, List.any_append, any_isError_issueIf, any_isError_issueIf]
  simp [Issue.isError, Issue.error, Table.contains_iff]

theorem any_isError_orphanIssues {key : String} :
    (w.orphanIssues key).any Issue.isError = false ↔ w.Referenced key := by
  rw [orphanIssues, any_isError_issueIf, ← isReferenced_iff]
  simp [Issue.isError, Issue.errorAt]

theorem any_isError_triggerIssues :
    w.triggerIssues.any Issue.isError = false ↔
      (w.entryTrigger?.isSome → w.outgoing w.entryId ≠ []) := by
  rw [triggerIssues, any_isError_issueIf]
  simp [Issue.isError, Issue.errorAt]

/-- What is said of a single node is a warning. -/
theorem any_isError_nodeIssues (key : String) (n : Node) :
    (w.nodeIssues key n).any Issue.isError = false := by
  simp only [nodeIssues, List.any_append, any_isError_issueIf]
  simp [Issue.isError, Issue.warningAt]

theorem any_isError_endIssues : w.endIssues.any Issue.isError = false := by
  rw [endIssues, any_isError_issueIf]
  simp [Issue.isError]

/-- What makes a workflow valid. -/
theorem isValid_eq_true_iff :
    w.isValid = true ↔ w.EntryResolves ∧ w.ReferencesResolve ∧
      (∀ key ∈ w.nodes.keys, w.Referenced key) ∧
      (w.entryTrigger?.isSome → w.outgoing w.entryId ≠ []) := by
  have each : ∀ {α : Type} (l : List α) (f : α → List Issue),
      (l.flatMap f).any Issue.isError = false ↔ ∀ a ∈ l, (f a).any Issue.isError = false := by
    intro α l f
    rw [List.any_flatMap, List.any_eq_false]
    simp only [Bool.not_eq_true]
  have references : (w.transitions.flatMap w.referenceIssues).any Issue.isError = false ↔
      w.ReferencesResolve := by
    simp only [each, any_isError_referenceIssues]
    rfl
  have orphans : (w.nodes.keys.flatMap w.orphanIssues).any Issue.isError = false ↔
      ∀ key ∈ w.nodes.keys, w.Referenced key := by
    simp only [each, any_isError_orphanIssues]
  have nodes : (w.nodes.entries.flatMap fun e => w.nodeIssues e.1 e.2).any Issue.isError =
      false := by
    simp only [each, any_isError_nodeIssues, implies_true]
  rw [isValid, Bool.not_eq_true', issues]
  simp only [List.any_append, Bool.or_eq_false_iff, any_isError_entryIssues, references, orphans,
    any_isError_triggerIssues, any_isError_endIssues, nodes, and_true, and_assoc]

end Workflow

end TicketFlow
