import TicketFlow.Proofs.Number.Count
import TicketFlow.Proofs.Repair.Settled

/-!
# What a repair leaves alone

A repair with fresh ids only adds. The nodes that were there come first, in their order,
and of their payloads nothing changes but deadlines that were missing or zero. The
transitions that were there come first as well. What is added carries no conditions and
no actions and never leaves an end.

Every repair is noted and nothing else is, so a repair without changes leaves the
workflow as it was. Only the version and the time of the last change are renewed in any
case. The version is counted up as far as numbers of its kind can count.
-/

namespace TicketFlow

/-- The same payload, or that of a state for which one of the usual deadlines stands in the
place of none or of zero minutes. -/
inductive NodeData.Kept : NodeData → NodeData → Prop where
  | same (data : NodeData) : Kept data data
  | deadline {d : StateData} {minutes : Nat} (without : ∀ m ∈ d.slaMinutes, m.isZero = true)
      (usual : minutes ∈ [60, 120, 240, 480]) :
      Kept (.state d) (.state { d with slaMinutes := some (.int minutes) })

/-- The same node, up to a deadline. -/
structure Node.Kept (n n' : Node) : Prop where
  id : n'.id = n.id
  position : n'.position = n.position
  data : n.data.Kept n'.data

theorem Node.kept_withDeadline (n : Node) : n.Kept n.withDeadline := by
  refine ⟨n.id_withDeadline, n.position_withDeadline, ?_⟩
  obtain ⟨-, same⟩ | ⟨d, -, data, closed, changed⟩ := n.withDeadline_cases
  · rw [same]
    exact .same _
  · rw [changed, data]
    refine .deadline (fun m hm => ?_) (StateData.suggestedMinutes_mem d.label)
    rw [StateData.hasDeadline, Option.mem_def.mp hm, Option.any_some] at closed
    simpa using closed

namespace Workflow

variable {w : Workflow} {ids : IdSupply String} {now : Option Timestamp}

/-- A workflow with additions: at most an end and a state, and transitions that only move
tickets from a node that is no end to a node. -/
structure Extends (w w' : Workflow) : Prop where
  nodes : ∃ kept added, w'.nodes.entries = kept ++ added ∧
    List.Forall₂ (fun e e' => e'.1 = e.1 ∧ e.2.Kept e'.2) w.nodes.entries kept ∧
    (∀ e ∈ added, e.2.isEnd = true ∨ e.2.isState = true) ∧
    added.countP (fun e => e.2.isEnd) ≤ 1 ∧ added.countP (fun e => e.2.isState) ≤ 1
  transitions : ∃ added, w'.transitions = w.transitions ++ added ∧ ∀ t ∈ added,
    t.conditions = [] ∧ t.actions = [] ∧
      ∃ source target, w'.nodes.get? t.source = some source ∧
        w'.nodes.get? t.target = some target ∧ source.isEnd = false
  id : w'.id = w.id
  name : w'.name = w.name
  entryId : w'.entryId = w.entryId
  enabled : w'.enabled = w.enabled
  description : w'.description = w.description
  createdAt : w'.createdAt = w.createdAt

/-! ## Additions -/

theorem isEnd_or_isState_of_mem_newNodes {n : Node} (h : n ∈ w.newNodes ids) :
    n.isEnd = true ∨ n.isState = true := by
  rw [Node.isEnd, Node.isState, Node.type]
  rcases data_of_mem_newNodes h with data | data
  · rw [data]
    exact .inl rfl
  · rw [data]
    exact .inr rfl

theorem countP_newNodes (w : Workflow) (ids : IdSupply String) :
    (w.newNodes ids).countP Node.isEnd ≤ 1 ∧ (w.newNodes ids).countP Node.isState ≤ 1 := by
  have isEnd : (w.endNode ids.next).isEnd = true ∧ (w.endNode ids.next).isState = false :=
    ⟨rfl, rfl⟩
  have isState (id : String) (beside : Node) :
      (Draft.escalationNode id beside).isEnd = false ∧
        (Draft.escalationNode id beside).isState = true := ⟨rfl, rfl⟩
  rw [newNodes, newEnds, newStates]
  constructor <;> split <;> split <;> simp [isEnd, isState]

/-- A new transition only moves tickets, between two nodes of which the first is no end. -/
theorem newLinks_join (keyed : w.KeyedById) (fresh : ids.FreshFor w) {t : Transition}
    (h : t ∈ w.newLinks ids) : t.conditions = [] ∧ t.actions = [] ∧
      ∃ source target, (w.grown ids now).nodes.get? t.source = some source ∧
        (w.grown ids now).nodes.get? t.target = some target ∧ source.isEnd = false := by
  obtain ⟨leaves, -, conditions, actions⟩ := newLinks_cases keyed h
  have source : ∃ source, (t.source, source) ∈ (w.grown ids now).nodes.entries ∧
      source.isEnd = false := by
    rcases leaves with ⟨n, mem, noEnd⟩ | ⟨n, hn, same⟩
    · refine ⟨_, withDeadline_mem_grown fresh mem, ?_⟩
      rw [Node.isEnd_withDeadline]
      exact noEnd
    · refine ⟨n, same ▸ newNode_mem_grown fresh (List.mem_append_right _ hn), ?_⟩
      obtain ⟨-, rfl⟩ := mem_newStates hn
      rfl
  obtain ⟨source, mem, noEnd⟩ := source
  obtain ⟨target, found⟩ := Table.mem_keys_iff.mp (newLinks_resolve keyed fresh h).2
  exact ⟨conditions, actions, source, target, Table.get?_eq_some_iff.mpr mem, found, noEnd⟩

theorem extends_grown (keyed : w.KeyedById) (fresh : ids.FreshFor w) :
    w.Extends (w.grown ids now) where
  nodes := by
    refine ⟨_, _, entries_grownNodes fresh, ?_, ?_, ?_⟩
    · rw [List.forall₂_map_right_iff]
      exact List.forall₂_same.mpr fun e _ => ⟨rfl, e.2.kept_withDeadline⟩
    · intro e mem
      obtain ⟨n, hn, rfl⟩ := List.mem_map.mp mem
      exact isEnd_or_isState_of_mem_newNodes hn
    · rw [List.countP_map, List.countP_map]
      exact countP_newNodes w ids
  transitions :=
    ⟨w.newLinks ids, rfl, fun _ h => newLinks_join keyed fresh h⟩
  id := rfl
  name := rfl
  entryId := rfl
  enabled := rfl
  description := rfl
  createdAt := rfl

/-! ## Changes -/

/-- Nothing is noted exactly when no node and no transition is added and no state lacks a
deadline. -/
theorem repairChanges_eq_nil_iff :
    w.repairChanges ids = [] ↔ w.newNodes ids = [] ∧ w.newLinks ids = [] ∧ w.Timed := by
  have timed : (w.nodes.entries.filterMap fun e =>
      e.2.openState?.map (Draft.deadlineChange e.1)) = [] ↔ w.Timed := by
    simp [List.filterMap_eq_nil_iff, Timed]
  have escalations : w.newStates ids = [] → w.escalations ids = [] := by
    simp [newStates, Workflow.escalations]
  simp only [repairChanges, newNodes, newLinks, closings, branches, lastLinks, timed,
    List.append_eq_nil_iff, List.map_eq_nil_iff, IdSupply.assign_eq_nil_iff]
  constructor
  · rintro ⟨⟨⟨⟨⟨ends, dead⟩, timed⟩, states⟩, half⟩, last⟩
    exact ⟨⟨ends, states⟩, ⟨⟨⟨dead, escalations states⟩, half⟩, last⟩, timed⟩
  · rintro ⟨⟨ends, states⟩, ⟨⟨⟨dead, -⟩, half⟩, last⟩, timed⟩
    exact ⟨⟨⟨⟨⟨ends, dead⟩, timed⟩, states⟩, half⟩, last⟩

theorem grownNodes_eq_iff (fresh : ids.FreshFor w) :
    w.grownNodes ids = w.nodes ↔ w.newNodes ids = [] ∧ w.Timed := by
  rw [Table.ext_iff, entries_grownNodes fresh]
  constructor
  · intro same
    have none : w.newNodes ids = [] := by
      have lengths := congrArg List.length same
      rw [List.length_append, List.length_map, List.length_map] at lengths
      exact List.length_eq_zero_iff.mp (by omega)
    refine ⟨none, fun e mem => ?_⟩
    rw [none, List.map_nil, List.append_nil] at same
    rw [← same] at mem
    obtain ⟨old, -, rfl⟩ := List.mem_map.mp mem
    exact old.2.openState?_withDeadline
  · rintro ⟨none, timed⟩
    rw [none, List.map_nil, List.append_nil]
    exact congrArg Table.entries timed.nodesWithDeadlines_eq

theorem grown_eq_iff (fresh : ids.FreshFor w) :
    { w.grown ids now with version := w.version, updatedAt := w.updatedAt } = w ↔
      w.newNodes ids = [] ∧ w.newLinks ids = [] ∧ w.Timed := by
  have parts : { w.grown ids now with version := w.version, updatedAt := w.updatedAt } = w ↔
      w.grownNodes ids = w.nodes ∧ w.transitions ++ w.newLinks ids = w.transitions := by
    constructor
    · intro same
      exact ⟨congrArg Workflow.nodes same, congrArg Workflow.transitions same⟩
    · rintro ⟨nodes, transitions⟩
      rw [grown, nodes, transitions]
  rw [parts, grownNodes_eq_iff fresh, List.append_right_eq_self]
  tauto

/-- With nodes under their own ids and with fresh ids a repair only adds, apart from
deadlines of states. The version is counted up, and no change is noted exactly when nothing
else happened. -/
theorem repair_extends (keyed : w.KeyedById) (fresh : ids.FreshFor w) (now : Option Timestamp) :
    let repaired := w.repair ids now
    w.Extends repaired.workflow ∧
      repaired.workflow.version = w.version.addInt 1 ∧
      (∀ n : Int, w.version = .int n → repaired.workflow.version = .int (n + 1)) ∧
      (∀ k : Int, w.version.toInt? = some k → -2 ^ 53 ≤ k → k < 2 ^ 53 →
        repaired.workflow.version.toInt? = some (k + 1)) ∧
      (repaired.changes = [] ↔
        { repaired.workflow with version := w.version, updatedAt := w.updatedAt } = w) := by
  intro repaired
  have grown : repaired.workflow = w.grown ids now := workflow_repair keyed fresh
  have changes : repaired.changes = w.repairChanges ids := changes_repair keyed fresh
  have version : repaired.workflow.version = w.version.addInt 1 := by
    rw [grown]
    rfl
  refine ⟨?additions, version, ?integers, ?doubles, ?log⟩
  case additions =>
    rw [grown]
    exact extends_grown keyed fresh
  case integers =>
    intro n integer
    rw [version, integer, Number.addInt_int]
  case doubles =>
    intro k value above below
    rw [version]
    exact Number.toInt?_addInt_one value above below
  case log =>
    rw [changes, grown, grown_eq_iff fresh]
    exact repairChanges_eq_nil_iff

/-- Here an end was there, a state and three transitions are added, and a deadline is set. -/
theorem unfinished_repair_extends :
    let repaired := unfinished.repair ⟨stemmedId "new", 0⟩ none
    unfinished.KeyedById ∧ (⟨stemmedId "new", 0⟩ : IdSupply String).FreshFor unfinished ∧
      unfinished.Extends repaired.workflow ∧ repaired.workflow.version = 2 ∧
      repaired.changes ≠ [] ∧
      { repaired.workflow with version := 1, updatedAt := none } ≠ unfinished := by
  intro repaired
  obtain ⟨additions, -, integer, -, log⟩ :=
    repair_extends unfinished_keyedById unfinished_freshFor none
  have noted : repaired.changes ≠ [] := by decide +kernel
  exact ⟨unfinished_keyedById, unfinished_freshFor, additions, integer 1 rfl, noted,
    fun same => noted (log.mpr same)⟩

/-- A workflow whose version is the double from which on the next one is two away. -/
def wornOut : Workflow :=
  { unfinished with version := .double (.ofInt (2 ^ 53)) }

/-- Its version is not counted up, because one more is not a double. -/
theorem wornOut_keeps_version :
    let repaired := wornOut.repair ⟨stemmedId "new", 0⟩ none
    wornOut.KeyedById ∧ (⟨stemmedId "new", 0⟩ : IdSupply String).FreshFor wornOut ∧
      wornOut.version.toInt? = some (2 ^ 53) ∧ repaired.workflow.version = wornOut.version ∧
      repaired.workflow.version.toInt? ≠ some (2 ^ 53 + 1) := by
  intro repaired
  have keyed : wornOut.KeyedById := unfinished_keyedById
  have fresh : (⟨stemmedId "new", 0⟩ : IdSupply String).FreshFor wornOut :=
    IdSupply.freshFor_of_forall (by decide)
  have kept : repaired.workflow.version = wornOut.version := by
    change (wornOut.repair ⟨stemmedId "new", 0⟩ none).workflow.version = _
    rw [workflow_repair keyed fresh]
    decide +kernel
  exact ⟨keyed, fresh, by decide +kernel, kept, by rw [kept]; decide +kernel⟩

end Workflow

end TicketFlow
