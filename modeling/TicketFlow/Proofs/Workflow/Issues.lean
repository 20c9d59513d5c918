import TicketFlow.Proofs.Workflow.Validity

/-!
# What a workflow reports

Each issue is of one of eleven kinds. The kinds are listed here with their wordings,
and `Reports` says what in a workflow gives rise to each of them. So later statements
reason about nodes and transitions and not about the list of issues. What a warning or
an error about a node ends with tells its kind, whatever the labels in it are.
-/

namespace TicketFlow

namespace Issue

/-- The error that no entry is set. -/
def unsetEntry : Issue :=
  .error "Workflow must have an entryNodeId"

/-- The error that the entry is unknown. -/
def unknownEntry (key : String) : Issue :=
  .error ("entryNodeId " ++ inQuotes key ++ " does not reference a valid node")

/-- The error that the source of a transition is unknown. -/
def unknownSource (t : Transition) : Issue :=
  .error ("Transition " ++ inQuotes t.id ++ " references unknown fromNodeId " ++
    inQuotes t.source)

/-- The error that the target of a transition is unknown. -/
def unknownTarget (t : Transition) : Issue :=
  .error ("Transition " ++ inQuotes t.id ++ " references unknown toNodeId " ++
    inQuotes t.target)

/-- The error that a node is connected to nothing. -/
def orphan (key : String) : Issue :=
  .errorAt key ("Node " ++ inQuotes key ++ " is orphaned (not connected by any transition)")

/-- The error that nothing leaves the trigger at the entry. -/
def stuckTrigger (key : String) : Issue :=
  .errorAt key "Trigger node must have at least one outgoing transition"

/-- The warning that there is no end node. -/
def noEnd : Issue :=
  ⟨"Workflow has no end node; tickets may stay in progress forever", .warning, none⟩

/-- The warning that nothing leaves a node. -/
def noExit (key label : String) : Issue :=
  .warningAt key (inQuotes label ++ " has no outgoing transitions")

/-- The warning that nothing arrives at a node. -/
def noArrival (key label : String) : Issue :=
  .warningAt key (inQuotes label ++ " has no incoming transitions")

/-- The warning that a condition does not have two branches. -/
def fewBranches (key label : String) : Issue :=
  .warningAt key ("Condition " ++ inQuotes label ++ " should have at least 2 branches")

/-- The warning that an action node does nothing. -/
def noActions (key : String) : Issue :=
  .warningAt key "Action node has no actions defined"

/-- What a message ends with, read backwards. No key and no label reaches that far. -/
def ending (issue : Issue) : List Char :=
  issue.message.toList.reverse.take 20

@[simp] theorem ending_orphan (key : String) :
    (orphan key).ending = ")noitisnart yna yb d".toList := by
  simp [ending, orphan, errorAt]

@[simp] theorem ending_stuckTrigger (key : String) :
    (stuckTrigger key).ending = "noitisnart gniogtuo ".toList := by
  simp [ending, stuckTrigger, errorAt]

@[simp] theorem ending_noExit (key label : String) :
    (noExit key label).ending = "snoitisnart gniogtuo".toList := by
  simp [ending, noExit, warningAt]

@[simp] theorem ending_noArrival (key label : String) :
    (noArrival key label).ending = "snoitisnart gnimocni".toList := by
  simp [ending, noArrival, warningAt]

@[simp] theorem ending_fewBranches (key label : String) :
    (fewBranches key label).ending = "sehcnarb 2 tsael ta ".toList := by
  simp [ending, fewBranches, warningAt]

@[simp] theorem ending_noActions (key : String) :
    (noActions key).ending = "denifed snoitca on s".toList := by
  simp [ending, noActions, warningAt]

end Issue

namespace Workflow

variable {w : Workflow} {issue : Issue}

/-- The issues of a workflow, each with what gives rise to it. -/
inductive Reports (w : Workflow) : Issue → Prop
  | unsetEntry (unset : w.entryId = "") : w.Reports .unsetEntry
  | unknownEntry (set : w.entryId ≠ "") (unknown : w.entryId ∉ w.nodes.keys) :
      w.Reports (.unknownEntry w.entryId)
  | unknownSource {t : Transition} (ht : t ∈ w.transitions) (unknown : t.source ∉ w.nodes.keys) :
      w.Reports (.unknownSource t)
  | unknownTarget {t : Transition} (ht : t ∈ w.transitions) (unknown : t.target ∉ w.nodes.keys) :
      w.Reports (.unknownTarget t)
  | orphan {key : String} (mem : key ∈ w.nodes.keys) (alone : ¬w.Referenced key) :
      w.Reports (.orphan key)
  | stuckTrigger (trigger : w.entryTrigger?.isSome = true) (stuck : w.outgoing w.entryId = []) :
      w.Reports (.stuckTrigger w.entryId)
  | noEnd (none : w.endNodes = []) : w.Reports .noEnd
  | noExit {key : String} {n : Node} (mem : (key, n) ∈ w.nodes.entries) (noEnd : n.isEnd = false)
      (stuck : w.outgoing key = []) : w.Reports (.noExit key n.label)
  | noArrival {key : String} {n : Node} (mem : (key, n) ∈ w.nodes.entries)
      (other : key ≠ w.entryId) (unreached : w.incoming key = []) :
      w.Reports (.noArrival key n.label)
  | fewBranches {key : String} {n : Node} (mem : (key, n) ∈ w.nodes.entries)
      (condition : n.type = .condition) (few : (w.outgoing key).length < 2) :
      w.Reports (.fewBranches key n.label)
  | noActions {key : String} {n : Node} (mem : (key, n) ∈ w.nodes.entries)
      (idle : lacksActions n.data = true) : w.Reports (.noActions key)

theorem mem_issueIf {ι : Type} {condition : Bool} {a b : ι} :
    a ∈ issueIf condition b ↔ condition = true ∧ a = b := by
  cases condition <;> simp [issueIf]

theorem mem_entryIssues : issue ∈ w.entryIssues ↔
    w.entryId = "" ∧ issue = .unsetEntry ∨
      w.entryId ≠ "" ∧ w.entryId ∉ w.nodes.keys ∧ issue = .unknownEntry w.entryId := by
  rw [entryIssues]
  by_cases unset : w.entryId = ""
  · simp [unset, Issue.unsetEntry]
  · simp [unset, mem_issueIf, ← Bool.not_eq_true, Issue.unknownEntry]

theorem mem_referenceIssues {t : Transition} : issue ∈ w.referenceIssues t ↔
    t.source ∉ w.nodes.keys ∧ issue = .unknownSource t ∨
      t.target ∉ w.nodes.keys ∧ issue = .unknownTarget t := by
  rw [referenceIssues, List.mem_append, mem_issueIf, mem_issueIf]
  simp [← Bool.not_eq_true, Issue.unknownSource, Issue.unknownTarget]

theorem mem_orphanIssues {key : String} : issue ∈ w.orphanIssues key ↔
    ¬w.Referenced key ∧ issue = .orphan key := by
  rw [orphanIssues, mem_issueIf, ← isReferenced_iff]
  simp [Issue.orphan]

theorem mem_triggerIssues : issue ∈ w.triggerIssues ↔
    (w.entryTrigger?.isSome = true ∧ w.outgoing w.entryId = []) ∧
      issue = .stuckTrigger w.entryId := by
  rw [triggerIssues, mem_issueIf]
  simp [Issue.stuckTrigger]

theorem mem_endIssues : issue ∈ w.endIssues ↔ w.endNodes = [] ∧ issue = .noEnd := by
  rw [endIssues, mem_issueIf]
  simp [Issue.noEnd]

theorem mem_nodeIssues {key : String} {n : Node} : issue ∈ w.nodeIssues key n ↔
    (n.isEnd = false ∧ w.outgoing key = []) ∧ issue = .noExit key n.label ∨
    (key ≠ w.entryId ∧ w.incoming key = []) ∧ issue = .noArrival key n.label ∨
    (n.type = .condition ∧ (w.outgoing key).length < 2) ∧ issue = .fewBranches key n.label ∨
    lacksActions n.data = true ∧ issue = .noActions key := by
  simp only [nodeIssues, List.mem_append, mem_issueIf, or_assoc]
  simp [Issue.noExit, Issue.noArrival, Issue.fewBranches, Issue.noActions]

theorem mem_issues : issue ∈ w.issues ↔
    issue ∈ w.entryIssues ∨ (∃ t ∈ w.transitions, issue ∈ w.referenceIssues t) ∨
      (∃ key ∈ w.nodes.keys, issue ∈ w.orphanIssues key) ∨ issue ∈ w.triggerIssues ∨
      issue ∈ w.endIssues ∨ ∃ e ∈ w.nodes.entries, issue ∈ w.nodeIssues e.1 e.2 := by
  simp only [issues, List.mem_append, List.mem_flatMap, or_assoc]

theorem reports_of_mem (h : issue ∈ w.issues) : w.Reports issue := by
  rcases mem_issues.mp h with h | ⟨t, ht, h⟩ | ⟨key, mem, h⟩ | h | h | ⟨⟨key, n⟩, mem, h⟩
  · obtain ⟨unset, rfl⟩ | ⟨set, unknown, rfl⟩ := mem_entryIssues.mp h
    · exact .unsetEntry unset
    · exact .unknownEntry set unknown
  · obtain ⟨unknown, rfl⟩ | ⟨unknown, rfl⟩ := mem_referenceIssues.mp h
    · exact .unknownSource ht unknown
    · exact .unknownTarget ht unknown
  · obtain ⟨alone, rfl⟩ := mem_orphanIssues.mp h
    exact .orphan mem alone
  · obtain ⟨⟨trigger, stuck⟩, rfl⟩ := mem_triggerIssues.mp h
    exact .stuckTrigger trigger stuck
  · obtain ⟨none, rfl⟩ := mem_endIssues.mp h
    exact .noEnd none
  · obtain ⟨⟨noEnd, stuck⟩, rfl⟩ | ⟨⟨other, unreached⟩, rfl⟩ | ⟨⟨condition, few⟩, rfl⟩ |
      ⟨idle, rfl⟩ := mem_nodeIssues.mp h
    · exact .noExit mem noEnd stuck
    · exact .noArrival mem other unreached
    · exact .fewBranches mem condition few
    · exact .noActions mem idle

theorem Reports.mem_issues (h : w.Reports issue) : issue ∈ w.issues := by
  rw [Workflow.mem_issues]
  cases h with
  | unsetEntry unset => exact .inl (mem_entryIssues.mpr (.inl ⟨unset, rfl⟩))
  | unknownEntry set unknown => exact .inl (mem_entryIssues.mpr (.inr ⟨set, unknown, rfl⟩))
  | unknownSource ht unknown =>
      exact .inr (.inl ⟨_, ht, mem_referenceIssues.mpr (.inl ⟨unknown, rfl⟩)⟩)
  | unknownTarget ht unknown =>
      exact .inr (.inl ⟨_, ht, mem_referenceIssues.mpr (.inr ⟨unknown, rfl⟩)⟩)
  | orphan mem alone => exact .inr (.inr (.inl ⟨_, mem, mem_orphanIssues.mpr ⟨alone, rfl⟩⟩))
  | stuckTrigger trigger stuck =>
      exact .inr (.inr (.inr (.inl (mem_triggerIssues.mpr ⟨⟨trigger, stuck⟩, rfl⟩))))
  | noEnd none => exact .inr (.inr (.inr (.inr (.inl (mem_endIssues.mpr ⟨none, rfl⟩)))))
  | noExit mem noEnd stuck =>
      refine .inr (.inr (.inr (.inr (.inr ⟨_, mem, ?_⟩))))
      exact mem_nodeIssues.mpr (.inl ⟨⟨noEnd, stuck⟩, rfl⟩)
  | noArrival mem other unreached =>
      refine .inr (.inr (.inr (.inr (.inr ⟨_, mem, ?_⟩))))
      exact mem_nodeIssues.mpr (.inr (.inl ⟨⟨other, unreached⟩, rfl⟩))
  | fewBranches mem condition few =>
      refine .inr (.inr (.inr (.inr (.inr ⟨_, mem, ?_⟩))))
      exact mem_nodeIssues.mpr (.inr (.inr (.inl ⟨⟨condition, few⟩, rfl⟩)))
  | noActions mem idle =>
      refine .inr (.inr (.inr (.inr (.inr ⟨_, mem, ?_⟩))))
      exact mem_nodeIssues.mpr (.inr (.inr (.inr ⟨idle, rfl⟩)))

/-- The issues of a workflow are those that something in it gives rise to. -/
theorem mem_issues_iff : issue ∈ w.issues ↔ w.Reports issue :=
  ⟨reports_of_mem, Reports.mem_issues⟩

/-! ## What the wording of an issue tells -/

theorem Reports.endNodes_eq_nil (h : w.Reports .noEnd) : w.endNodes = [] := by
  generalize told : Issue.noEnd = issue at h
  have place := congrArg (fun i => (i.severity, i.nodeId?)) told
  cases h
  case noEnd none => exact none
  all_goals cases place

theorem Reports.key_alone {key : String} (h : w.Reports (.orphan key)) :
    key ∈ w.nodes.keys ∧ ¬w.Referenced key := by
  generalize told : Issue.orphan key = issue at h
  have place := congrArg (fun i => (i.severity, i.nodeId?)) told
  have ending := congrArg Issue.ending told
  cases h
  case orphan mem alone =>
    cases place
    exact ⟨mem, alone⟩
  case stuckTrigger => simp at ending
  all_goals cases place

theorem Reports.trigger_stuck {key : String} (h : w.Reports (.stuckTrigger key)) :
    w.entryTrigger?.isSome = true ∧ w.outgoing w.entryId = [] := by
  generalize told : Issue.stuckTrigger key = issue at h
  have place := congrArg (fun i => (i.severity, i.nodeId?)) told
  have ending := congrArg Issue.ending told
  cases h
  case stuckTrigger trigger stuck => exact ⟨trigger, stuck⟩
  case orphan => simp at ending
  all_goals cases place

theorem Reports.exists_stuck {key label : String} (h : w.Reports (.noExit key label)) :
    ∃ n, (key, n) ∈ w.nodes.entries ∧ n.isEnd = false ∧ w.outgoing key = [] := by
  generalize told : Issue.noExit key label = issue at h
  have place := congrArg (fun i => (i.severity, i.nodeId?)) told
  have ending := congrArg Issue.ending told
  cases h
  case noExit n mem noEnd stuck =>
    cases place
    exact ⟨n, mem, noEnd, stuck⟩
  case noArrival => simp at ending
  case fewBranches => simp at ending
  case noActions => simp at ending
  all_goals cases place

theorem Reports.exists_undecided {key label : String} (h : w.Reports (.fewBranches key label)) :
    ∃ n, (key, n) ∈ w.nodes.entries ∧ n.type = .condition ∧ (w.outgoing key).length < 2 := by
  generalize told : Issue.fewBranches key label = issue at h
  have place := congrArg (fun i => (i.severity, i.nodeId?)) told
  have ending := congrArg Issue.ending told
  cases h
  case fewBranches n mem condition few =>
    cases place
    exact ⟨n, mem, condition, few⟩
  case noExit => simp at ending
  case noArrival => simp at ending
  case noActions => simp at ending
  all_goals cases place

end Workflow

end TicketFlow
