import TicketFlow.Proofs.Repair.Settled

/-!
# What a repaired workflow reports

A repair adds no issue: what a repaired workflow reports was reported before, with the
same wording. Of the kinds of issues that a repair is about none is left. What remains
is what no repair touches: an entry or a reference that does not resolve, an orphaned
end, a node that nothing leads to and an action node that does nothing.
-/

namespace TicketFlow

namespace Workflow

variable {w : Workflow} {ids : IdSupply String} {now : Option Timestamp} {issue : Issue}

/-- Tickets can leave a trigger at the entry of a settled workflow. -/
theorem Settled.trigger_exits (h : w.Settled) (trigger : w.entryTrigger?.isSome = true) :
    w.outgoing w.entryId ≠ [] := by
  obtain ⟨d, trigger⟩ := Option.isSome_iff_exists.mp trigger
  obtain ⟨-, n, found, data⟩ := entryTrigger?_eq_some.mp trigger
  have noEnd : n.isEnd = false := by
    rw [Node.isEnd, Node.type, data]
    rfl
  exact h.exits (w.entryId, n) (Table.get?_eq_some_iff.mp found) noEnd

theorem Settled.endNodes_ne_nil (h : w.Settled) : w.endNodes ≠ [] := by
  obtain ⟨e, mem, isEnd⟩ := h.exists_end
  apply List.ne_nil_of_mem
  exact List.mem_filter.mpr ⟨Table.mem_values_iff.mpr ⟨e.1, mem⟩, isEnd⟩

/-- The kinds of issues that a settled workflow does not report. -/
theorem Settled.ne_of_reports (h : w.Settled) (told : w.Reports issue) :
    issue ≠ .noEnd ∧ ∀ key label,
      issue ≠ .stuckTrigger key ∧ issue ≠ .noExit key label ∧ issue ≠ .fewBranches key label := by
  refine ⟨?_, fun key label => ⟨?_, ?_, ?_⟩⟩
  · rintro rfl
    exact h.endNodes_ne_nil told.endNodes_eq_nil
  · rintro rfl
    obtain ⟨trigger, stuck⟩ := told.trigger_stuck
    exact h.trigger_exits trigger stuck
  · rintro rfl
    obtain ⟨n, mem, noEnd, stuck⟩ := told.exists_stuck
    exact h.exits (key, n) mem noEnd stuck
  · rintro rfl
    obtain ⟨n, mem, condition, few⟩ := told.exists_undecided
    exact absurd few (Nat.not_lt.mpr (h.branches (key, n) mem condition))

theorem referenced_grown {key : String} (h : w.Referenced key) :
    (w.grown ids now).Referenced key := by
  rcases h with entry | ⟨t, ht, touches⟩
  · exact .inl entry
  · exact .inr ⟨t, List.mem_append_left _ ht, touches⟩

theorem incoming_eq_nil {key : String} (h : (w.grown ids now).incoming key = []) :
    w.incoming key = [] ∧ ∀ t ∈ w.newLinks ids, t.target ≠ key := by
  have split : (w.grown ids now).incoming key =
      w.incoming key ++ (w.newLinks ids).filter fun t => t.target == key :=
    List.filter_append _ _
  rw [split, List.append_eq_nil_iff, List.filter_eq_nil_iff] at h
  exact ⟨h.1, fun t ht target => h.2 t ht (beq_iff_eq.mpr target)⟩

theorem lacksActions_withDeadline (n : Node) :
    lacksActions n.withDeadline.data = lacksActions n.data :=
  Node.apply_withDeadline lacksActions (fun _ => rfl) n

/-- Each issue of a repaired workflow is one of the workflow before. -/
theorem Reports.of_grown (keyed : w.KeyedById) (fresh : ids.FreshFor w)
    (nodes : w.nodes.values ≠ []) (h : (w.grown ids now).Reports issue) : w.Reports issue := by
  have settled : (w.grown ids now).Settled := settled_grown keyed fresh
  have known : ∀ key, key ∉ (w.grown ids now).nodes.keys → key ∉ w.nodes.keys :=
    fun key unknown mem => unknown (mem_keys_grownNodes fresh mem)
  cases h with
  | unsetEntry unset => exact .unsetEntry unset
  | unknownEntry set unknown => exact .unknownEntry set (known _ unknown)
  | unknownSource ht unknown =>
      rcases List.mem_append.mp ht with ht | ht
      · exact .unknownSource ht (known _ unknown)
      · exact absurd (newLinks_resolve keyed fresh ht).1 unknown
  | unknownTarget ht unknown =>
      rcases List.mem_append.mp ht with ht | ht
      · exact .unknownTarget ht (known _ unknown)
      · exact absurd (newLinks_resolve keyed fresh ht).2 unknown
  | orphan mem alone =>
      obtain ⟨n, mem⟩ := Table.mem_keys_iff.mp mem
      rcases mem_grown_cases fresh (Table.get?_eq_some_iff.mp mem) with ⟨old, hold, -⟩ | ⟨hnew, rfl⟩
      · exact .orphan (List.mem_map.mpr ⟨_, hold, rfl⟩) fun touched =>
          alone (referenced_grown touched)
      · obtain ⟨t, ht, target⟩ := exists_arrival nodes hnew
        exact absurd (.inr ⟨t, List.mem_append_right _ ht, .inr target⟩) alone
  | stuckTrigger trigger stuck => exact absurd stuck (settled.trigger_exits trigger)
  | noEnd none => exact absurd none settled.endNodes_ne_nil
  | noExit mem noEnd stuck => exact absurd stuck (settled.exits _ mem noEnd)
  | noArrival mem other unreached =>
      obtain ⟨before, new⟩ := incoming_eq_nil unreached
      rcases mem_grown_cases fresh mem with ⟨old, hold, rfl⟩ | ⟨hnew, rfl⟩
      · rw [Node.label_withDeadline]
        exact .noArrival hold other before
      · obtain ⟨t, ht, target⟩ := exists_arrival nodes hnew
        exact absurd target (new t ht)
  | fewBranches mem condition few =>
      exact absurd few (Nat.not_lt.mpr (settled.branches _ mem condition))
  | noActions mem idle =>
      rcases mem_grown_cases fresh mem with ⟨old, hold, rfl⟩ | ⟨hnew, rfl⟩
      · rw [lacksActions_withDeadline] at idle
        exact .noActions hold idle
      · rcases data_of_mem_newNodes hnew with data | data
        · rw [data] at idle
          cases idle
        · rw [data] at idle
          cases idle

/-- With nodes, all of them under their own ids, and with fresh ids a repair introduces no
issue, neither an error nor a warning, and none is left that says that there is no end, that
a trigger at the entry is stuck, that nothing leaves a node or that a condition has fewer
than two branches. -/
theorem mem_issues_of_repair (keyed : w.KeyedById) (fresh : ids.FreshFor w)
    (nodes : w.nodes.entries ≠ []) (now : Option Timestamp) :
    ∀ issue ∈ (w.repair ids now).workflow.issues, issue ∈ w.issues ∧
      issue ≠ .noEnd ∧ ∀ key label,
        issue ≠ .stuckTrigger key ∧ issue ≠ .noExit key label ∧
          issue ≠ .fewBranches key label := by
  intro issue mem
  rw [workflow_repair keyed fresh, mem_issues_iff] at mem
  have values : w.nodes.values ≠ [] := fun none => nodes (List.map_eq_nil_iff.mp none)
  exact ⟨(mem.of_grown keyed fresh values).mem_issues,
    (settled_grown keyed fresh).ne_of_reports mem⟩

/-- A trigger, a condition and an action node without any transition and any end. -/
def scattered : Workflow where
  id := "wf"
  name := "Scattered"
  nodes := ⟨[("in", ⟨"in", .trigger ⟨"create", []⟩, ⟨0, 0⟩⟩),
    ("ask", ⟨"ask", .condition ⟨"all", []⟩, ⟨0, 140⟩⟩),
    ("act", ⟨"act", .action ⟨[]⟩, ⟨0, 280⟩⟩)], by decide⟩
  transitions := []
  entryId := "in"
  enabled := true
  version := 1
  description := none
  createdAt := none
  updatedAt := none

/-- Every kind of issue about nodes and exits is reported before the repair. What is left
afterwards is that nothing leads to the condition and to the action node, and that the
action node does nothing. -/
theorem scattered_issues_of_repair :
    let repaired := (scattered.repair ⟨stemmedId "new", 0⟩ none).workflow
    scattered.KeyedById ∧ (⟨stemmedId "new", 0⟩ : IdSupply String).FreshFor scattered ∧
      scattered.nodes.entries ≠ [] ∧
      (∀ issue ∈ [.stuckTrigger "in", .noEnd, .fewBranches "ask" "Condition", .orphan "act",
        .noExit "act" "Action"], issue ∈ scattered.issues) ∧
      repaired.issues = [.noArrival "ask" "Condition", .noArrival "act" "Action",
        .noActions "act"] ∧
      ∀ issue ∈ repaired.issues, issue ∈ scattered.issues ∧ issue ≠ .noEnd ∧ ∀ key label,
        issue ≠ .stuckTrigger key ∧ issue ≠ .noExit key label ∧
          issue ≠ .fewBranches key label := by
  intro repaired
  have keyed : scattered.KeyedById := by simp [KeyedById, scattered]
  have fresh : (⟨stemmedId "new", 0⟩ : IdSupply String).FreshFor scattered :=
    IdSupply.freshFor_of_forall (by decide)
  have nodes : scattered.nodes.entries ≠ [] := List.cons_ne_nil _ _
  have before : ∀ issue ∈ [.stuckTrigger "in", .noEnd, .fewBranches "ask" "Condition",
      .orphan "act", .noExit "act" "Action"], issue ∈ scattered.issues := by decide
  have after : repaired.issues = [.noArrival "ask" "Condition", .noArrival "act" "Action",
      .noActions "act"] := by decide +kernel
  exact ⟨keyed, fresh, nodes, before, after, mem_issues_of_repair keyed fresh nodes none⟩

end Workflow

end TicketFlow
