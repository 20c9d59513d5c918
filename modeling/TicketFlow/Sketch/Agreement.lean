import TicketFlow.Sketch.Report

/-!
# Reports about workflows and their sketches

The sketch of a workflow is reported about like the workflow itself: its issues, its
export and its repair have the same documents. So what is shown about a sketch that is
a workflow follows the laws of workflows.
-/

namespace TicketFlow.Sketch

/-- What is absent is left out of a document, and so is the `null` that stands for it. -/
theorem unlessNull_ofOption {α : Type} {write : α → Value} (present : ∀ a, write a ≠ .null)
    (name : String) (content : Option α) :
    unlessNull name (.ofOption write content) = Value.optionEntry name (content.map write) := by
  cases content with
  | none => rfl
  | some a =>
    rw [Value.ofOption, Option.map_some, Option.getD_some, unlessNull]
    · rfl
    · exact present a

/-! ## Issues -/

@[simp] theorem Issue.toValue_sketch (issue : TicketFlow.Issue) :
    issue.sketch.toValue = issue.toValue := by
  simp [TicketFlow.Issue.sketch, toValue, TicketFlow.Issue.toValue,
    unlessNull_ofOption Value.string_ne_null, Value.textEntry]

@[simp] theorem Issue.isError_sketch (issue : TicketFlow.Issue) :
    issue.sketch.isError = issue.isError := rfl

/-- The issues of a workflow are listed as those of its sketch. -/
theorem Issue.listing_sketch (w : Workflow) :
    listing (w.issues.map TicketFlow.Issue.sketch) = w.validationValue := by
  simp [listing, Workflow.validationValue, Workflow.isValid, Function.comp_def, List.any_map]

/-- The report about the issues of a workflow is that about its sketch. -/
theorem validationReport_sketch (w : Workflow) :
    w.sketch.validationReport = .ok w.validationReport := by
  have errors : ((w.issues.map TicketFlow.Issue.sketch).filter Issue.isError).map Issue.message =
      w.errors.map TicketFlow.Issue.message := by
    simp only [List.filter_map, List.map_map]
    rfl
  have warnings : ((w.issues.map TicketFlow.Issue.sketch).filter
      fun i => i.severity == .warning).map Issue.message =
      w.warnings.map TicketFlow.Issue.message := by
    simp [Workflow.warnings, List.filter_map, Function.comp_def, TicketFlow.Issue.sketch]
  simp [validationReport, findings_sketch, Except.map, Issue.report, Issue.listing_sketch,
    Workflow.validationReport, errors, warnings]

/-! ## Repairs -/

@[simp] theorem Change.toValue_sketch (change : TicketFlow.Change) :
    change.sketch.toValue = change.toValue := rfl

/-- The document of the repair of a workflow is that of its sketch. -/
theorem Repaired.toValue_sketch (r : TicketFlow.Repaired) : r.sketch.toValue = .ok r.toValue := by
  simp [TicketFlow.Repaired.sketch, toValue, document_sketch, TicketFlow.Repaired.toValue,
    Function.comp_def, bind, Except.bind, pure, Except.pure]

/-- The report about the repair of a workflow is that about its sketch. -/
theorem Repaired.report_sketch (r : TicketFlow.Repaired) : r.sketch.report = .ok r.report := by
  have issues := validationReport_sketch r.workflow
  simp [report, toValue_sketch, TicketFlow.Repaired.report, bind, Except.bind, pure, Except.pure,
    show r.sketch.sketch = r.workflow.sketch from rfl, Value.texts, issues]

/-! ## Rules -/

@[simp] theorem Condition.toValue_sketch (c : TicketFlow.Condition) :
    c.sketch.toValue = c.toValue := rfl

@[simp] theorem Action.toValue_sketch (a : TicketFlow.Action) : a.sketch.toValue = a.toValue := by
  obtain ⟨kind, value, extra⟩ := a
  cases value <;> rfl

/-- The document of a rule is that of its sketch. -/
theorem Rule.toValue_sketch (r : TicketFlow.Rule) : r.sketch.toValue = .ok r.toValue := by
  have conditions : Part.toValues Condition.toValue
      (r.conditions.map fun c => Part.read c.sketch) =
      .ok (TicketFlow.Condition.toValues r.conditions) :=
    mapM_map_pure (fun c : TicketFlow.Condition => Part.read c.sketch)
      (fun part => part.item.map Condition.toValue) TicketFlow.Condition.toValue fun _ _ => rfl
  have actions : Part.toValues Action.toValue (r.actions.map fun a => Part.read a.sketch) =
      .ok (TicketFlow.Action.toValues r.actions) :=
    mapM_map_pure (fun a : TicketFlow.Action => Part.read a.sketch)
      (fun part => part.item.map Action.toValue) TicketFlow.Action.toValue
      fun a _ => congrArg Except.ok (Action.toValue_sketch a)
  simp [TicketFlow.Rule.sketch, toValue, conditions, actions, TicketFlow.Rule.toValue, bind,
    Except.bind, pure, Except.pure, Value.textEntry]

theorem Rule.toValues_sketch (rules : List TicketFlow.Rule) :
    toValues (rules.map TicketFlow.Rule.sketch) =
      .ok (.array (rules.map TicketFlow.Rule.toValue)) := by
  have each : (rules.map TicketFlow.Rule.sketch).mapM toValue =
      .ok (rules.map TicketFlow.Rule.toValue) :=
    mapM_map_pure _ _ _ fun r _ => Rule.toValue_sketch r
  rw [toValues, each]
  rfl

/-- The export of a workflow with its rules is that of its sketch with theirs. -/
theorem exportValue_sketch (w : Workflow) (rules : List TicketFlow.Rule)
    (exportedAt : Option Timestamp) :
    w.sketch.exportValue (rules.map TicketFlow.Rule.sketch) exportedAt =
      .ok (w.exportValue rules exportedAt) := by
  simp [exportValue, document_sketch, Rule.toValues_sketch, Workflow.exportValue, bind,
    Except.bind, pure, Except.pure, Value.textEntry]

end TicketFlow.Sketch
