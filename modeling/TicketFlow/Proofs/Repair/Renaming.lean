import TicketFlow.Proofs.Repair.Origin
import TicketFlow.Proofs.Repair.Validity
import TicketFlow.Proofs.Rule.Renaming

/-!
# Repairs of renamed workflows

A repair picks nodes by what they are and by where transitions lead, in the order of the
workflow, so it picks the renamed nodes of a renamed workflow. The ids that it gives out
come in the same order, whatever they are.
-/

namespace TicketFlow

/-- A change about a renamed node. -/
def Change.rename (r : Renaming) (c : Change) : Change :=
  { c with nodeId := r c.nodeId }

/-- Changes of the repairs of a workflow and of a renamed one that correspond. They differ
in the node that they are about: an old node is renamed, and an added node has the id that
comes at the same point of the other supply. -/
structure Change.Matches (w : Workflow) (r : Renaming) (ids ids' : IdSupply String)
    (before after : Change) : Prop where
  kind : after.kind = before.kind
  description : after.description = before.description
  renamed : before.nodeId ∈ w.nodes.keys → after.nodeId = r before.nodeId
  added : before.nodeId ∉ w.nodes.keys →
    ∃ i, before.nodeId = ids.ids (ids.drawn + i) ∧ after.nodeId = ids'.ids (ids'.drawn + i)

namespace Draft

variable (r : Renaming)

theorem preferred_rename (entryId : String) (candidate best : Node) :
    preferred (r entryId) (candidate.rename r) (best.rename r) =
      preferred entryId candidate best := by
  simp only [preferred, Node.rename_isState, Node.rename_id, Renaming.apply_bne,
    Node.rename_position]

end Draft

namespace Workflow

variable (r : Renaming) (w : Workflow)

theorem isDeadEnd_rename (key : String) (n : Node) :
    (w.rename r).isDeadEnd (r key) (n.rename r) = w.isDeadEnd key n := by
  simp [isDeadEnd]

theorem lacksBranch_rename (key : String) (n : Node) :
    (w.rename r).lacksBranch (r key) (n.rename r) = w.lacksBranch key n := by
  simp [lacksBranch]

theorem missingBranch_rename (key : String) :
    (w.rename r).missingBranch (r key) = w.missingBranch key := by
  simp [missingBranch, Function.comp_def]

/-! ## What a repair picks -/

theorem deadEnds_rename :
    (w.rename r).deadEnds = w.deadEnds.map fun e => (r e.1, e.2.rename r) := by
  simp only [deadEnds, entries_rename, List.filter_map, Function.comp_def, isDeadEnd_rename]

theorem halfDecisions_rename :
    (w.rename r).halfDecisions = w.halfDecisions.map fun e => (r e.1, e.2.rename r) := by
  simp only [halfDecisions, entries_rename, List.filter_map, Function.comp_def,
    lacksBranch_rename]

theorem needsEscalation_rename : (w.rename r).needsEscalation = w.needsEscalation := by
  simp only [needsEscalation, values_rename, List.any_map]
  rfl

theorem leadsToEnd_rename : (w.rename r).leadsToEnd = w.leadsToEnd := by
  simp [leadsToEnd, deadEnds_rename, halfDecisions_rename, needsEscalation_rename]

theorem lastSource?_rename : (w.rename r).lastSource? = w.lastSource?.map (Node.rename r) := by
  have best : Draft.bestSource? (r w.entryId) (w.nodes.values.map (Node.rename r)) =
      (Draft.bestSource? w.entryId w.nodes.values).map (Node.rename r) :=
    Draft.bestSource?_map (Draft.preferred_rename r w.entryId) w.nodes.values
  simp only [lastSource?, firstEnd?_rename, Option.isSome_map, leadsToEnd_rename, rename_entryId,
    values_rename, best]
  split <;> rfl

/-! ## What a repair notes -/

theorem map_closingNote_rename : (w.rename r).deadEnds.map Draft.closingNote =
    (w.deadEnds.map Draft.closingNote).map (Change.rename r) := by
  rw [deadEnds_rename, List.map_map, List.map_map]
  rfl

theorem deadlineChanges_rename :
    ((w.rename r).nodes.entries.filterMap fun e => e.2.openState?.map (Draft.deadlineChange e.1)) =
      (w.nodes.entries.filterMap fun e =>
        e.2.openState?.map (Draft.deadlineChange e.1)).map (Change.rename r) := by
  rw [entries_rename, List.filterMap_map, List.map_filterMap]
  apply List.filterMap_congr
  intro e _
  rw [Option.map_map]
  rfl

theorem map_branchNote_rename : (w.rename r).halfDecisions.map (Draft.branchNote (w.rename r)) =
    (w.halfDecisions.map (Draft.branchNote w)).map (Change.rename r) := by
  simp only [halfDecisions_rename, List.map_map, Function.comp_def, Draft.branchNote,
    missingBranch_rename]
  rfl

theorem map_lastNote_rename : (w.rename r).lastSource?.toList.map Draft.lastNote =
    (w.lastSource?.toList.map Draft.lastNote).map (Change.rename r) := by
  rw [lastSource?_rename]
  cases w.lastSource? <;> rfl

variable {r w} {ids ids' : IdSupply String}

/-- Changes about old nodes. -/
theorem forall₂_matches_rename {changes : List Change}
    (old : ∀ c ∈ changes, c.nodeId ∈ w.nodes.keys) :
    List.Forall₂ (Change.Matches w r ids ids') changes (changes.map (Change.rename r)) := by
  rw [List.forall₂_map_right_iff, List.forall₂_same]
  intro c mem
  exact ⟨rfl, rfl, fun _ => rfl, fun new => absurd (old c mem) new⟩

/-- Changes that are noted for some of the old entries, each about its own node. -/
theorem forall₂_matches_notes {items : List (String × Node)} {note : String × Node → Change}
    (old : ∀ e ∈ items, e ∈ w.nodes.entries) (about : ∀ e, (note e).nodeId = e.1) :
    List.Forall₂ (Change.Matches w r ids ids') (items.map note)
      ((items.map note).map (Change.rename r)) := by
  apply forall₂_matches_rename
  intro c mem
  obtain ⟨e, picked, rfl⟩ := List.mem_map.mp mem
  rw [about]
  exact List.mem_map_of_mem (old e picked)

/-- A change about an added node. -/
theorem matches_added (fresh : ids.FreshFor w) (kind : ChangeKind) (description : String)
    (i : Nat) : Change.Matches w r ids ids' ⟨kind, description, ids.ids (ids.drawn + i)⟩
      ⟨kind, description, ids'.ids (ids'.drawn + i)⟩ := by
  refine ⟨rfl, rfl, fun old => ?_, fun _ => ⟨i, rfl, rfl⟩⟩
  exact absurd (.inl old) (fresh.not_mentioned _ (Nat.le_add_right _ _))

theorem length_newEnds_rename : ((w.rename r).newEnds ids').length = (w.newEnds ids).length := by
  rw [newEnds, newEnds, firstEnd?_rename, Option.isSome_map]
  split <;> rfl

/-- The id of a state that takes up escalated tickets, counted from the start. -/
theorem next_idsForEscalation : (w.idsForEscalation ids).next =
    ids.ids (ids.drawn + ((w.newEnds ids).length + w.deadEnds.length)) := by
  rw [idsForEscalation, idsForClosings, IdSupply.drop_drop]
  rfl

theorem forall₂_matches_newEnds (fresh : ids.FreshFor w) :
    List.Forall₂ (Change.Matches w r ids ids')
      ((w.newEnds ids).map fun n => ⟨.addEndNode, "Added missing end node", n.id⟩)
      (((w.rename r).newEnds ids').map fun n =>
        ⟨.addEndNode, "Added missing end node", n.id⟩) := by
  rw [newEnds, newEnds, firstEnd?_rename, Option.isSome_map]
  split
  · exact .nil
  · exact .cons (matches_added fresh _ _ 0) .nil

theorem forall₂_matches_newStates (fresh : ids.FreshFor w) :
    List.Forall₂ (Change.Matches w r ids ids')
      ((w.newStates ids).map fun n => Draft.escalationNote n.id)
      (((w.rename r).newStates ids').map fun n => Draft.escalationNote n.id) := by
  rw [newStates, newStates, needsEscalation_rename]
  split
  · have ends : ((w.rename r).newEnds ids').length = (w.newEnds ids).length :=
      length_newEnds_rename
    have closings : (w.rename r).deadEnds.length = w.deadEnds.length := by
      rw [deadEnds_rename, List.length_map]
    simp only [List.map_cons, List.map_nil, Draft.escalationNode, Draft.escalationNote,
      next_idsForEscalation, ends, closings]
    exact .cons (matches_added fresh _ _ _) .nil
  · exact .nil

/-- The repairs of a workflow and of a renamed one note corresponding changes. -/
theorem forall₂_matches (keyed : w.KeyedById) (fresh : ids.FreshFor w) :
    List.Forall₂ (Change.Matches w r ids ids') (w.repairChanges ids)
      ((w.rename r).repairChanges ids') := by
  rw [repairChanges, repairChanges]
  refine List.rel_append (List.rel_append (List.rel_append (List.rel_append (List.rel_append
    (forall₂_matches_newEnds fresh) ?closings) ?deadlines) (forall₂_matches_newStates fresh))
    ?branches) ?last
  case closings =>
    rw [map_closingNote_rename]
    exact forall₂_matches_notes (fun e picked => List.mem_of_mem_filter picked) fun _ => rfl
  case deadlines =>
    rw [deadlineChanges_rename]
    apply forall₂_matches_rename
    intro c mem
    obtain ⟨e, old, noted⟩ := List.mem_filterMap.mp mem
    obtain ⟨d, -, rfl⟩ := Option.map_eq_some_iff.mp noted
    exact List.mem_map_of_mem old
  case branches =>
    rw [map_branchNote_rename]
    exact forall₂_matches_notes (fun e picked => List.mem_of_mem_filter picked) fun _ => rfl
  case last =>
    rw [map_lastNote_rename]
    apply forall₂_matches_rename
    intro c mem
    obtain ⟨n, picked, rfl⟩ := List.mem_map.mp mem
    obtain ⟨-, value⟩ := lastSource?_eq_some (Option.mem_toList.mp picked)
    obtain ⟨key, old⟩ := Table.mem_values_iff.mp value
    -- The note names the node by its id, which is its key.
    change n.id ∈ w.nodes.keys
    rw [keyed _ old]
    exact List.mem_map_of_mem old

/-- Node ids are opaque. Say the nodes of a workflow stand under their own ids and are
renamed. Then its issues have the same severities in the same order, about the renamed
nodes. It has rules as before or none as before, and rules in the same place differ only
in the tags of their origin. A repair with fresh ids notes the same changes in the same
order, about the renamed nodes and the added ones. -/
theorem equivariant_rename (keyed : w.KeyedById) (fresh : ids.FreshFor w) (r : Renaming)
    (fresh' : ids'.FreshFor (w.rename r)) (now now' : Option Timestamp) :
    ((w.rename r).issues.map (fun i => (i.severity, i.nodeId?)) =
      w.issues.map fun i => (i.severity, i.nodeId?.map r)) ∧
    ((∃ rules, (w.rename r).compile = .ok rules) ↔ ∃ rules, w.compile = .ok rules) ∧
    (∀ rules rules', w.compile = .ok rules → (w.rename r).compile = .ok rules' →
      List.Forall₂ (fun before after => ∃ o ∈ w.origins, w.IsRuleOf o before ∧
        o.Retags w.id r before after) rules rules') ∧
    List.Forall₂ (Change.Matches w r ids ids') (w.repair ids now).changes
      ((w.rename r).repair ids' now').changes := by
  refine ⟨place_issues r w, exists_compile_rename_iff r w, ?rules, ?changes⟩
  case rules =>
    intro rules rules' compiled compiled'
    exact forall₂_retags keyed compiled compiled'
  case changes =>
    rw [changes_repair keyed fresh, changes_repair (keyedById_rename r keyed) fresh']
    exact forall₂_matches keyed fresh

/-- The names of the first and the last node of `unfinished` exchanged. -/
def endsExchanged : Renaming where
  toFun := Equiv.swap "in" "end"
  injective := (Equiv.swap "in" "end").injective
  eq_empty_iff name := by
    have fixed : Equiv.swap "in" "end" "" = "" := by decide
    rw [Equiv.swap_apply_eq_iff, fixed]

/-- The end node is an orphan under either name. -/
theorem unfinished_equivariant_rename :
    unfinished.KeyedById ∧ (⟨stemmedId "new", 0⟩ : IdSupply String).FreshFor unfinished ∧
      (⟨stemmedId "node", 0⟩ : IdSupply String).FreshFor (unfinished.rename endsExchanged) ∧
      (unfinished.rename endsExchanged).issues.map (fun i => (i.severity, i.nodeId?)) =
        [(.error, some "in"), (.warning, some "ask"), (.warning, some "in")] ∧
      (∃ rules, (unfinished.rename endsExchanged).compile = .ok rules) ∧
      List.Forall₂ (Change.Matches unfinished endsExchanged ⟨stemmedId "new", 0⟩
          ⟨stemmedId "node", 0⟩)
        (unfinished.repair ⟨stemmedId "new", 0⟩ none).changes
        ((unfinished.rename endsExchanged).repair ⟨stemmedId "node", 0⟩ none).changes := by
  have fresh' : (⟨stemmedId "node", 0⟩ : IdSupply String).FreshFor
      (unfinished.rename endsExchanged) :=
    IdSupply.freshFor_of_forall (by decide)
  obtain ⟨issues, compiles, -, changes⟩ := equivariant_rename unfinished_keyedById
    unfinished_freshFor endsExchanged fresh' none none
  refine ⟨unfinished_keyedById, unfinished_freshFor, fresh', ?_, ?_, changes⟩
  · rw [issues]
    decide
  · exact compiles.mpr ⟨_, rfl⟩

end Workflow

end TicketFlow
