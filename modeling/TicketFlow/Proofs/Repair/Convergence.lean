import TicketFlow.Proofs.Repair.Settled

/-!
# Repairing twice is enough

A repair leaves a settled workflow, so a second repair can only set deadlines. All old
states have theirs by then. The one state that may lack a deadline is the one that takes
up escalated tickets, because it is added after the deadlines are set. With that deadline
set, no later repair changes anything. Only the first repair needs fresh ids.
-/

namespace TicketFlow

namespace Node

theorem withDeadline_withDeadline (n : Node) : n.withDeadline.withDeadline = n.withDeadline :=
  withDeadline_of_openState?_eq_none n.openState?_withDeadline

end Node

namespace Workflow

variable {w : Workflow} {ids : IdSupply String} {now : Option Timestamp} {key : String}

/-- Nothing is changed in a settled workflow with deadlines. -/
theorem repair_of_settled_of_timed (settled : w.Settled) (timed : w.Timed) (ids : IdSupply String)
    (now : Option Timestamp) : w.repair ids now =
      ⟨{ w with updatedAt := now, version := w.version.addInt 1 }, [], ids⟩ := by
  rw [repair_of_settled settled, timed.nodesWithDeadlines_eq, timed.deadlineChanges_eq_nil]

theorem Settled.repair (h : w.Settled) : (w.repair ids now).workflow.Settled := by
  rw [repair_of_settled h]
  have timed := h.withDeadlines
  exact ⟨timed.exists_end, timed.exits, timed.branches, timed.escalation⟩

theorem Settled.timed_repair (h : w.Settled) : (w.repair ids now).workflow.Timed := by
  rw [repair_of_settled h]
  intro e mem
  obtain ⟨old, -, rfl⟩ := List.mem_map.mp mem
  exact old.2.openState?_withDeadline

/-! ## The state that takes up escalated tickets -/

theorem suggestedMinutes_escalated : StateData.suggestedMinutes "Escalated" = 120 := by
  decide

/-- A state that a repair adds has no deadline, and its label suggests two hours. -/
theorem newStates_open {n : Node} (h : n ∈ w.newStates ids) : ∃ d : StateData,
    n.data = .state d ∧ d.label = "Escalated" ∧ d.slaMinutes = none ∧
      n.withDeadline = { n with data := .state { d with slaMinutes := some 120 } } ∧
      n.openState?.map (Draft.deadlineChange n.id) =
        some ⟨.addDeadline, "Set 120m SLA on \"Escalated\"", n.id⟩ := by
  obtain ⟨-, rfl⟩ := mem_newStates h
  generalize escalation : Draft.escalationNode _ _ = n
  have data : n.data = .state ⟨"Escalated", some "bg-red-500", none, [], []⟩ := by
    rw [← escalation]
    rfl
  have isOpen : n.openState? = some ⟨"Escalated", some "bg-red-500", none, [], []⟩ := by
    rw [← escalation]
    rfl
  refine ⟨_, data, rfl, rfl, ?_, ?_⟩
  · simp only [Node.withDeadline, isOpen, StateData.withSuggestedDeadline,
      suggestedMinutes_escalated]
    rfl
  · have wording : "Set " ++ toString 120 ++ "m SLA on \"" ++ "Escalated" ++ "\"" =
        "Set 120m SLA on \"Escalated\"" := by decide
    rw [isOpen, Option.map_some, Draft.deadlineChange, suggestedMinutes_escalated, wording]

/-- A repair notes that it added such a state exactly when it did. -/
theorem mem_repairChanges_addEscalation {c : Change} :
    c ∈ w.repairChanges ids ∧ c.kind = .addEscalation ↔
      ∃ n ∈ w.newStates ids, c = Draft.escalationNote n.id := by
  simp only [repairChanges, List.mem_append, List.mem_map, List.mem_filterMap,
    Option.map_eq_some_iff]
  constructor
  · rintro ⟨((((⟨n, -, rfl⟩ | ⟨e, -, rfl⟩) | ⟨e, -, d, -, rfl⟩) | ⟨n, hn, rfl⟩) |
      ⟨e, -, rfl⟩) | ⟨n, -, rfl⟩, kind⟩
    · cases kind
    · cases kind
    · cases kind
    · exact ⟨n, hn, rfl⟩
    · cases kind
    · cases kind
  · rintro ⟨n, hn, rfl⟩
    exact ⟨.inl (.inl (.inr ⟨n, hn, rfl⟩)), rfl⟩

/-- Among the states of a repaired workflow those that it added are the ones without a
deadline. -/
theorem openState?_grown (fresh : ids.FreshFor w) {n : Node}
    (mem : (key, n) ∈ (w.grown ids now).nodes.entries) :
    n.openState? = none ∨ n ∈ w.newStates ids := by
  rcases mem_grown_cases fresh mem with ⟨old, -, rfl⟩ | ⟨hnew, -⟩
  · exact .inl old.openState?_withDeadline
  · rcases List.mem_append.mp hnew with hnew | hnew
    · obtain ⟨-, rfl⟩ := mem_newEnds hnew
      exact .inl rfl
    · exact .inr hnew

theorem timed_grown (fresh : ids.FreshFor w) (none : w.newStates ids = []) :
    (w.grown ids now).Timed := by
  intro e mem
  apply (openState?_grown fresh mem).resolve_right
  rw [none]
  exact List.not_mem_nil

theorem deadlineChanges_grown (fresh : ids.FreshFor w) {n : Node} (h : n ∈ w.newStates ids) :
    (w.grown ids now).deadlineChanges =
      [⟨.addDeadline, "Set 120m SLA on \"Escalated\"", n.id⟩] := by
  obtain ⟨d, -, -, -, -, change⟩ := newStates_open h
  have only : w.newStates ids = [n] := by
    obtain ⟨needed, rfl⟩ := mem_newStates h
    rw [newStates, if_pos needed]
  have old : (w.nodes.entries.map fun e => (e.1, e.2.withDeadline)).filterMap
      (fun e => e.2.openState?.map (Draft.deadlineChange e.1)) = [] := by
    simp
  have ends : ((w.newEnds ids).map Node.entry).filterMap
      (fun e => e.2.openState?.map (Draft.deadlineChange e.1)) = [] := by
    simp only [List.filterMap_eq_nil_iff, List.mem_map]
    rintro e ⟨m, hm, rfl⟩
    obtain ⟨-, rfl⟩ := mem_newEnds hm
    rfl
  rw [deadlineChanges, grown, entries_grownNodes fresh, newNodes, only, List.map_append,
    List.filterMap_append, List.filterMap_append, old, ends]
  simp [Node.entry, change]

theorem nodesWithDeadlines_grown {n : Node} (h : n ∈ w.newStates ids) :
    (w.grown ids now).nodesWithDeadlines =
      (w.grown ids now).nodes.insert n.id n.withDeadline := by
  obtain ⟨needed, rfl⟩ := mem_newStates h
  have timed : (w.timedNodes ids).mapEntries (fun _ n => n.withDeadline) = w.timedNodes ids := by
    apply Table.ext
    simp [timedNodes, Node.withDeadline_withDeadline]
  rw [nodesWithDeadlines, grown, grownNodes, if_pos needed, Table.mapEntries_insert, timed]
  exact (Table.insert_insert _ _ _ _).symm

/-- A second repair sets the deadline of the state that the first one added. -/
theorem repair_twice_of_mem_newStates (keyed : w.KeyedById) (fresh : ids.FreshFor w) {n : Node}
    (h : n ∈ w.newStates ids) (now' : Option Timestamp) (ids' : IdSupply String) :
    let once := (w.repair ids now).workflow
    once.repair ids' now' =
      ⟨{ once with
          nodes := once.nodes.insert n.id n.withDeadline
          updatedAt := now'
          version := once.version.addInt 1 },
        [⟨.addDeadline, "Set 120m SLA on \"Escalated\"", n.id⟩], ids'⟩ := by
  intro once
  have grown : once = w.grown ids now := workflow_repair keyed fresh
  rw [grown, repair_of_settled (settled_grown keyed fresh), nodesWithDeadlines_grown h,
    deadlineChanges_grown fresh h]

/-- If the first repair added no state, there is nothing left to do. -/
theorem repair_twice_of_newStates_eq_nil (keyed : w.KeyedById) (fresh : ids.FreshFor w)
    (none : w.newStates ids = []) (now' : Option Timestamp) (ids' : IdSupply String) :
    let once := (w.repair ids now).workflow
    once.repair ids' now' =
      ⟨{ once with updatedAt := now', version := once.version.addInt 1 }, [], ids'⟩ := by
  rw [workflow_repair keyed fresh]
  exact repair_of_settled_of_timed (settled_grown keyed fresh) (timed_grown fresh none) ids' now'

/-- With nodes under their own ids and with fresh ids for the first repair, whatever the
times of the repairs and the ids of the later ones: if the first repair added a state for
escalated tickets, the second one sets the deadline of that state to two hours, and
otherwise it changes nothing. It takes no id. The third repair changes nothing at all. The
version and the time of the last change are renewed each time. -/
theorem repair_settles (keyed : w.KeyedById) (fresh : ids.FreshFor w)
    (now now' now'' : Option Timestamp) (ids' ids'' : IdSupply String) :
    let first := w.repair ids now
    let second := first.workflow.repair ids' now'
    let third := second.workflow.repair ids'' now''
    (∀ c ∈ first.changes, c.kind = .addEscalation → ∃ n d,
      first.workflow.nodes.get? c.nodeId = some n ∧ n.data = .state d ∧
        d.label = "Escalated" ∧ d.slaMinutes = none ∧
        second.changes = [⟨.addDeadline, "Set 120m SLA on \"Escalated\"", c.nodeId⟩] ∧
        second.workflow = { first.workflow with
          nodes := first.workflow.nodes.insert c.nodeId
            { n with data := .state { d with slaMinutes := some 120 } }
          updatedAt := now'
          version := first.workflow.version.addInt 1 }) ∧
    ((∀ c ∈ first.changes, c.kind ≠ .addEscalation) →
      second.changes = [] ∧
        second.workflow = { first.workflow with
          updatedAt := now'
          version := first.workflow.version.addInt 1 }) ∧
    second.ids = ids' ∧
    third.changes = [] ∧ third.ids = ids'' ∧
      third.workflow = { second.workflow with
        updatedAt := now''
        version := second.workflow.version.addInt 1 } := by
  intro first second third
  have grown : first.workflow = w.grown ids now := workflow_repair keyed fresh
  have changes : first.changes = w.repairChanges ids := changes_repair keyed fresh
  have settled : first.workflow.Settled := by
    rw [grown]
    exact settled_grown keyed fresh
  have secondIds : second.ids = ids' :=
    congrArg Repaired.ids (repair_of_settled settled ids' now')
  have last : third = ⟨{ second.workflow with
      updatedAt := now''
      version := second.workflow.version.addInt 1 }, [], ids''⟩ :=
    repair_of_settled_of_timed settled.repair settled.timed_repair ids'' now''
  refine ⟨?escalated, ?unchanged, secondIds, by rw [last], by rw [last], by rw [last]⟩
  case escalated =>
    intro c mem kind
    obtain ⟨n, hn, rfl⟩ := mem_repairChanges_addEscalation.mp ⟨changes ▸ mem, kind⟩
    obtain ⟨d, data, label, without, timed, -⟩ := newStates_open hn
    have found : first.workflow.nodes.get? n.id = some n := by
      rw [grown]
      exact Table.get?_eq_some_iff.mpr (newNode_mem_grown fresh (List.mem_append_right _ hn))
    have again : second = _ := repair_twice_of_mem_newStates keyed fresh hn now' ids'
    rw [timed] at again
    refine ⟨n, d, found, data, label, without, ?_, ?_⟩
    · rw [again]
      rfl
    · rw [again]
      rfl
  case unchanged =>
    intro other
    have none : w.newStates ids = [] := by
      apply List.eq_nil_iff_forall_not_mem.mpr
      intro n hn
      obtain ⟨mem, kind⟩ := mem_repairChanges_addEscalation.mpr ⟨n, hn, rfl⟩
      exact other _ (changes ▸ mem) kind
    have again : second = _ := repair_twice_of_newStates_eq_nil keyed fresh none now' ids'
    constructor
    · rw [again]
    · rw [again]

/-- Here the first repair sets a deadline, adds a state for escalated tickets and completes a
branch. The second one is left with the deadline of the new state, and the ids that it is
offered need not be fresh. -/
theorem unfinished_repair_settles :
    let first := unfinished.repair ⟨stemmedId "new", 0⟩ none
    let second := first.workflow.repair ⟨fun _ => "in", 0⟩ none
    let third := second.workflow.repair ⟨fun _ => "in", 0⟩ none
    unfinished.KeyedById ∧ (⟨stemmedId "new", 0⟩ : IdSupply String).FreshFor unfinished ∧
      first.changes.map Change.kind = [.addDeadline, .addEscalation, .fixBranch] ∧
      second.changes = [⟨.addDeadline, "Set 120m SLA on \"Escalated\"", "new0"⟩] ∧
      second.ids.drawn = 0 ∧ third.changes = [] ∧ third.ids.drawn = 0 := by
  intro first second third
  have noted : Draft.escalationNote "new0" ∈ first.changes := by decide +kernel
  obtain ⟨escalated, -, secondIds, unchanged, thirdIds, -⟩ :=
    repair_settles unfinished_keyedById unfinished_freshFor none none none
      ⟨fun _ => "in", 0⟩ ⟨fun _ => "in", 0⟩
  obtain ⟨n, d, -, -, -, -, deadline, -⟩ := escalated _ noted rfl
  exact ⟨unfinished_keyedById, unfinished_freshFor, by decide +kernel, deadline,
    by rw [secondIds], unchanged, by rw [thirdIds]⟩

end Workflow

end TicketFlow
