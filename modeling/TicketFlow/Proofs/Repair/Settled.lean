import TicketFlow.Proofs.Repair.Origin

/-!
# Nothing left to repair

A workflow is settled when no repair but the one of deadlines finds anything to do: it
has an end, its other nodes can be left, its conditions have two branches, and beside a
state there is one that takes up escalated tickets. A repair with fresh ids leaves a
settled workflow. On a settled workflow a repair sets deadlines and does nothing else,
and it takes no id.
-/

namespace TicketFlow

namespace Node

theorem isState_of_isTimedState {n : Node} (h : Draft.isTimedState n = true) :
    n.isState = true := by
  cases data : n.data <;>
    simp_all [Draft.isTimedState, NodeData.state?, isState, type, NodeData.type]

@[simp] theorem openState?_withDeadline (n : Node) : n.withDeadline.openState? = none := by
  rw [openState?, state?_withDeadline]
  cases n.data.state? with
  | none => rfl
  | some d => simp [Option.filter]

theorem withDeadline_of_openState?_eq_none {n : Node} (h : n.openState? = none) :
    n.withDeadline = n := by
  rw [withDeadline, h]

end Node

namespace Workflow

variable {w : Workflow} {ids : IdSupply String} {now : Option Timestamp} {key : String}

/-- Nothing but deadlines can be missing. -/
structure Settled (w : Workflow) : Prop where
  exists_end : ∃ e ∈ w.nodes.entries, e.2.isEnd = true
  exits : ∀ e ∈ w.nodes.entries, e.2.isEnd = false → w.outgoing e.1 ≠ []
  branches : ∀ e ∈ w.nodes.entries, e.2.type = .condition → 2 ≤ (w.outgoing e.1).length
  escalation : ∀ e ∈ w.nodes.entries, e.2.isState = true →
    ∃ e' ∈ w.nodes.entries, e'.2.isEscalation = true

/-! ## Repaired workflows are settled -/

theorem outgoing_grown (w : Workflow) (ids : IdSupply String) (now : Option Timestamp)
    (key : String) : (w.grown ids now).outgoing key =
      w.outgoing key ++ (w.newLinks ids).filter fun t => t.source == key :=
  List.filter_append _ _

theorem exists_end_grown (keyed : w.KeyedById) (fresh : ids.FreshFor w) :
    ∃ e ∈ (w.grown ids now).nodes.entries, e.2.isEnd = true := by
  rcases goal_cases ids keyed with ⟨n, first, -, mem⟩ | ⟨-, mem⟩
  · refine ⟨_, withDeadline_mem_grown fresh mem, ?_⟩
    rw [Node.isEnd_withDeadline]
    exact List.find?_some first
  · exact ⟨_, newNode_mem_grown fresh mem, isEnd_goal⟩

theorem outgoing_grown_ne_nil (fresh : ids.FreshFor w) {n : Node}
    (mem : (key, n) ∈ (w.grown ids now).nodes.entries) (noEnd : n.isEnd = false) :
    (w.grown ids now).outgoing key ≠ [] := by
  obtain ⟨t, ht, source⟩ := exists_exit fresh mem noEnd
  apply List.ne_nil_of_mem
  exact List.mem_filter.mpr ⟨ht, beq_iff_eq.mpr source⟩

/-- A condition with no branch gets one when dead ends are connected and a second one when
branches are completed; one with a single branch gets the second only. -/
theorem two_le_outgoing_grown {n : Node} (mem : (key, n) ∈ w.nodes.entries)
    (condition : n.type = .condition) : 2 ≤ ((w.grown ids now).outgoing key).length := by
  have noEnd : n.isEnd = false := by simp [Node.isEnd, condition]
  have closed : w.outgoing key = [] →
      1 ≤ ((w.closings ids).filter fun t => t.source == key).length := by
    intro stuck
    have dead : (key, n) ∈ w.deadEnds :=
      List.mem_filter.mpr ⟨mem, by simp [isDeadEnd, noEnd, stuck]⟩
    rw [length_closings_from]
    exact List.length_pos_of_mem (List.mem_filter.mpr ⟨dead, beq_self_eq_true key⟩)
  have completed : (w.outgoing key).length < 2 →
      1 ≤ ((w.branches ids).filter fun t => t.source == key).length := by
    intro few
    have half : (key, n) ∈ w.halfDecisions :=
      List.mem_filter.mpr ⟨mem, by simp [lacksBranch, condition, few]⟩
    obtain ⟨i, -, branch⟩ := IdSupply.exists_mem_assign (s := w.idsForBranches ids)
      (m := Draft.branch w (w.goal ids).id) half
    exact List.length_pos_of_mem (List.mem_filter.mpr ⟨branch, beq_self_eq_true key⟩)
  rw [outgoing_grown, newLinks]
  simp only [List.filter_append, List.length_append]
  cases exits : w.outgoing key with
  | nil =>
      have first := closed exits
      have second := completed (by simp [exits])
      omega
  | cons t rest =>
      rw [exits, List.length_cons] at completed
      rw [List.length_cons]
      omega

theorem isEscalation_of_mem_newStates {n : Node} (h : n ∈ w.newStates ids) :
    n.isEscalation = true := by
  obtain ⟨-, rfl⟩ := mem_newStates h
  change Text.mentions "Escalated" "escalat" = true
  decide

theorem exists_escalation_grown (fresh : ids.FreshFor w) {n : Node}
    (mem : (key, n) ∈ (w.grown ids now).nodes.entries) (isState : n.isState = true) :
    ∃ e ∈ (w.grown ids now).nodes.entries, e.2.isEscalation = true := by
  cases needed : w.needsEscalation with
  | true =>
      have new : Draft.escalationNode (w.idsForEscalation ids).next (w.goal ids) ∈
          w.newStates ids := by simp [newStates, needed]
      exact ⟨_, newNode_mem_grown fresh (List.mem_append_right _ new),
        isEscalation_of_mem_newStates new⟩
  | false =>
      have old : ∃ old, (key, old) ∈ w.nodes.entries ∧ old.isState = true := by
        rcases mem_grown_cases fresh mem with ⟨old, hold, rfl⟩ | ⟨hnew, -⟩
        · exact ⟨old, hold, by rwa [Node.isState_withDeadline] at isState⟩
        · rcases List.mem_append.mp hnew with hnew | hnew
          · rw [Node.not_isState_of_isEnd (isEnd_of_mem_newEnds hnew)] at isState
            cases isState
          · rw [(mem_newStates hnew).1] at needed
            cases needed
      obtain ⟨old, hold, state⟩ := old
      have someState : w.nodes.values.any Node.isState = true :=
        List.any_eq_true.mpr ⟨old, Table.mem_values_iff.mpr ⟨key, hold⟩, state⟩
      rw [needsEscalation, someState, Bool.true_and, Bool.not_eq_false', List.any_eq_true] at needed
      obtain ⟨m, hm, escalation⟩ := needed
      obtain ⟨key', mem'⟩ := Table.mem_values_iff.mp hm
      exact ⟨_, withDeadline_mem_grown fresh mem', by rwa [Node.isEscalation_withDeadline]⟩

/-- A repair with fresh ids leaves nothing but deadlines to be desired. -/
theorem settled_grown (keyed : w.KeyedById) (fresh : ids.FreshFor w) :
    (w.grown ids now).Settled where
  exists_end := exists_end_grown keyed fresh
  exits := fun e mem noEnd => outgoing_grown_ne_nil fresh mem noEnd
  branches := by
    intro e mem condition
    rcases mem_grown_cases fresh mem with ⟨old, hold, same⟩ | ⟨hnew, -⟩
    · rw [same, Node.type_withDeadline] at condition
      exact two_le_outgoing_grown hold condition
    · rw [Node.type] at condition
      rcases data_of_mem_newNodes hnew with data | data
      · rw [data] at condition
        cases condition
      · rw [data] at condition
        cases condition
  escalation := fun e mem isState => exists_escalation_grown fresh mem isState

/-! ## Repairs of settled workflows -/

/-- The nodes of a workflow, with deadlines for its states. -/
def nodesWithDeadlines (w : Workflow) : Table Node :=
  w.nodes.mapEntries fun _ n => n.withDeadline

/-- The changes that are noted for the states without a deadline. -/
def deadlineChanges (w : Workflow) : List Change :=
  w.nodes.entries.filterMap fun e => e.2.openState?.map (Draft.deadlineChange e.1)

/-- Every state has a deadline. -/
def Timed (w : Workflow) : Prop :=
  ∀ e ∈ w.nodes.entries, e.2.openState? = none

theorem Timed.deadlineChanges_eq_nil (h : w.Timed) : w.deadlineChanges = [] := by
  apply List.filterMap_eq_nil_iff.mpr
  intro e mem
  rw [h e mem]
  rfl

theorem Timed.nodesWithDeadlines_eq (h : w.Timed) : w.nodesWithDeadlines = w.nodes := by
  have same : ∀ e ∈ w.nodes.entries, (e.1, e.2.withDeadline) = e := by
    intro e mem
    rw [Node.withDeadline_of_openState?_eq_none (h e mem)]
  exact Table.ext ((List.map_congr_left same).trans (List.map_id' _))

namespace Settled

theorem exists_firstEnd? (h : w.Settled) : ∃ n, w.firstEnd? = some n := by
  obtain ⟨e, mem, isEnd⟩ := h.exists_end
  apply Option.isSome_iff_exists.mp
  exact List.find?_isSome.mpr ⟨e.2, Table.mem_values_iff.mpr ⟨e.1, mem⟩, isEnd⟩

theorem deadEnds_eq_nil (h : w.Settled) : w.deadEnds = [] := by
  apply List.filter_eq_nil_iff.mpr
  intro e mem dead
  rw [isDeadEnd, Bool.and_eq_true, Bool.not_eq_true', List.isEmpty_iff] at dead
  exact h.exits e mem dead.1 dead.2

theorem halfDecisions_eq_nil (h : w.Settled) : w.halfDecisions = [] := by
  apply List.filter_eq_nil_iff.mpr
  intro e mem lacks
  simp only [lacksBranch, Bool.and_eq_true, beq_iff_eq, decide_eq_true_eq] at lacks
  have enough := h.branches e mem lacks.1
  omega

theorem lacksEscalation_eq_false (h : w.Settled) : w.lacksEscalation = false := by
  rw [lacksEscalation, Bool.and_eq_false_imp]
  intro timed
  obtain ⟨n, hn, timed⟩ := List.any_eq_true.mp timed
  obtain ⟨key, mem⟩ := Table.mem_values_iff.mp hn
  obtain ⟨e, mem', escalation⟩ := h.escalation (key, n) mem (Node.isState_of_isTimedState timed)
  rw [Bool.not_eq_false', List.any_eq_true]
  exact ⟨e.2, Table.mem_values_iff.mpr ⟨e.1, mem'⟩, escalation⟩

/-- Setting deadlines leaves nothing else to be desired either. -/
theorem withDeadlines (h : w.Settled) : { w with nodes := w.nodesWithDeadlines }.Settled := by
  have kept : ∀ e ∈ w.nodes.entries, (e.1, e.2.withDeadline) ∈ w.nodesWithDeadlines.entries :=
    fun e mem => List.mem_map.mpr ⟨e, mem, rfl⟩
  constructor
  · obtain ⟨e, mem, isEnd⟩ := h.exists_end
    exact ⟨_, kept e mem, by rwa [Node.isEnd_withDeadline]⟩
  · intro e mem noEnd
    obtain ⟨old, hold, rfl⟩ := List.mem_map.mp mem
    rw [Node.isEnd_withDeadline] at noEnd
    exact h.exits old hold noEnd
  · intro e mem condition
    obtain ⟨old, hold, rfl⟩ := List.mem_map.mp mem
    rw [Node.type_withDeadline] at condition
    exact h.branches old hold condition
  · intro e mem isState
    obtain ⟨old, hold, rfl⟩ := List.mem_map.mp mem
    rw [Node.isState_withDeadline] at isState
    obtain ⟨e', mem', escalation⟩ := h.escalation old hold isState
    exact ⟨_, kept e' mem', by rwa [Node.isEscalation_withDeadline]⟩

end Settled

end Workflow

namespace Draft

variable {d : Draft}

/-! ### The repairs one by one -/

theorem addMissingEnd_of_settled (h : d.workflow.Settled) : d.addMissingEnd = d := by
  obtain ⟨n, first⟩ := h.exists_firstEnd?
  rw [addMissingEnd, first]
  rfl

theorem connectDeadEnds_of_settled (h : d.workflow.Settled) : d.connectDeadEnds = d := by
  obtain ⟨n, first⟩ := h.exists_firstEnd?
  have none : (d.workflow.nodes.entries.filter fun e => d.workflow.isDeadEnd e.1 e.2) = [] :=
    h.deadEnds_eq_nil
  rw [connectDeadEnds_eq first, none]
  simp [extend]

theorem addEscalation_of_settled (h : d.workflow.Settled) : d.addEscalation = d := by
  obtain ⟨n, first⟩ := h.exists_firstEnd?
  rw [addEscalation_eq first, h.lacksEscalation_eq_false]
  rfl

theorem completeBranches_of_settled (h : d.workflow.Settled) : d.completeBranches = d := by
  obtain ⟨n, first⟩ := h.exists_firstEnd?
  have none : (d.workflow.nodes.entries.filter fun e => d.workflow.lacksBranch e.1 e.2) = [] :=
    h.halfDecisions_eq_nil
  rw [completeBranches_eq first, none]
  simp [extend]

/-- Without an end node that was added there is none to connect. -/
theorem connectAddedEnd_of_none (none : d.addedEnd? = none) : d.connectAddedEnd = d := by
  rw [connectAddedEnd, none]

theorem repair_of_settled (h : d.workflow.Settled) (none : d.addedEnd? = none) :
    d.repair = d.addDeadlines := by
  have timed : d.addDeadlines.workflow.Settled := h.withDeadlines
  rw [repair, addMissingEnd_of_settled h, connectDeadEnds_of_settled h,
    addEscalation_of_settled timed, completeBranches_of_settled timed]
  exact connectAddedEnd_of_none none

end Draft

/-- Of a settled workflow a repair changes the states without a deadline only. -/
theorem Workflow.repair_of_settled {w : Workflow} (h : w.Settled) (ids : IdSupply String)
    (now : Option Timestamp) : w.repair ids now =
      ⟨{ w with
          nodes := w.nodesWithDeadlines
          updatedAt := now
          version := w.version.addInt 1 }, w.deadlineChanges, ids⟩ := by
  rw [Workflow.repair, Draft.repair_of_settled (d := .start w ids) h rfl]
  rfl

end TicketFlow
