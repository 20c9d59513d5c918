import TicketFlow.Proofs.Number.Order
import TicketFlow.Proofs.Repair.Validity

/-!
# The log of a repair

The changes that a repair notes, by their kind and node, and the number of ids that it
draws can be read off the workflow before it. The node that an added end node is connected
to is the first one with the highest rank.
-/

namespace TicketFlow

/-! ## The node to connect an end node to -/

/-- The rank of a node as the one to connect an added end node to: states come before other
nodes, then the entry comes last, and then the lower node on the canvas comes first. -/
def Node.rank (entryId : String) (n : Node) : Bool ×ₗ Bool ×ₗ WithBot (WithTop ℚ) :=
  toLex (n.isState, toLex (n.id != entryId, n.position.y.place))

namespace Draft

variable {entryId : String}

/-- To prefer a node to another is to rank it higher. -/
theorem preferred_iff {candidate best : Node} (hc : candidate.position.y ≠ .double .nan)
    (hb : best.position.y ≠ .double .nan) :
    preferred entryId candidate best = true ↔ best.rank entryId < candidate.rank entryId := by
  rw [Node.rank, Node.rank, Prod.Lex.toLex_lt_toLex, Prod.Lex.toLex_lt_toLex, preferred,
    ← Number.lt_iff_place_lt hb hc]
  generalize (candidate.id != entryId) = candidateLater
  generalize (best.id != entryId) = bestLater
  cases candidate.isState <;> cases best.isState <;> cases candidateLater <;> cases bestLater <;>
    simp

/-- The search for the best node is that for the first one with the highest rank. -/
theorem bestSource?_eq_argmax {nodes : List Node}
    (placed : ∀ n ∈ nodes, n.position.y ≠ .double .nan) :
    bestSource? entryId nodes = nodes.argmax (Node.rank entryId) := by
  cases nodes with
  | nil => rfl
  | cons first rest =>
      change some _ = rest.foldl (List.argAux _) (some first)
      induction rest generalizing first with
      | nil => rfl
      | cons n rest ih =>
          rw [List.forall_mem_cons, List.forall_mem_cons] at placed
          obtain ⟨hf, hn, placedRest⟩ := placed
          have step : List.argAux (fun c b => b.rank entryId < c.rank entryId) (some first) n =
              some (if preferred entryId n first then n else first) := by
            simp only [List.argAux, preferred_iff hn hf, apply_ite some]
          rw [List.foldl_cons, List.foldl_cons, step]
          split
          · exact ih n (List.forall_mem_cons.mpr ⟨hn, placedRest⟩)
          · exact ih first (List.forall_mem_cons.mpr ⟨hf, placedRest⟩)

end Draft

/-! ## The log -/

/-- What a change tells apart from its description. -/
def Change.entry (c : Change) : ChangeKind × String :=
  (c.kind, c.nodeId)

namespace Workflow

variable (w : Workflow) (ids : IdSupply String)

/-- The entries of the states without a deadline. -/
def openStates : List (String × Node) :=
  w.nodes.entries.filter fun e => e.2.openState?.isSome

/-- The entries of the changes that a repair notes, read off the workflow before it. -/
def log : List (ChangeKind × String) :=
  (if w.firstEnd?.isNone then [(ChangeKind.addEndNode, ids.next)] else []) ++
  w.deadEnds.map (fun e => (ChangeKind.connectDeadEnd, e.1)) ++
  w.openStates.map (fun e => (ChangeKind.addDeadline, e.1)) ++
  (if w.needsEscalation then [(ChangeKind.addEscalation, (w.idsForEscalation ids).next)] else []) ++
  w.halfDecisions.map (fun e => (ChangeKind.fixBranch, e.1)) ++
  w.lastSource?.toList.map (fun n => (ChangeKind.connectEndNode, n.id))

/-- How many ids a repair draws: one for each new node and one for each new transition. The
state that takes up escalated tickets comes with a transition from every other state and one
to the end. -/
def idsDrawn : Nat :=
  (if w.firstEnd?.isNone then 1 else 0) + w.deadEnds.length +
  (if w.needsEscalation then w.states.length + 2 else 0) + w.halfDecisions.length +
  w.lastSource?.toList.length

theorem map_entry_repairChanges : (w.repairChanges ids).map Change.entry = w.log ids := by
  have ends : ((w.newEnds ids).map fun n => (ChangeKind.addEndNode, n.id)) =
      if w.firstEnd?.isNone then [(.addEndNode, ids.next)] else [] := by
    rw [newEnds]
    cases w.firstEnd? <;> rfl
  have deadlines : ((w.nodes.entries.filterMap fun e =>
      e.2.openState?.map (Draft.deadlineChange e.1)).map Change.entry) =
        w.openStates.map fun e => (.addDeadline, e.1) := by
    rw [openStates, List.map_filterMap, ← List.filterMap_eq_map, List.filterMap_filter]
    refine List.filterMap_congr fun e _ => ?_
    cases e.2.openState? <;> rfl
  have states : ((w.newStates ids).map fun n => (ChangeKind.addEscalation, n.id)) =
      if w.needsEscalation then [(.addEscalation, (w.idsForEscalation ids).next)] else [] := by
    rw [newStates, apply_ite (List.map _)]
    rfl
  simp only [repairChanges, List.map_append, List.map_map, deadlines]
  rw [log, ← ends, ← states]
  rfl

theorem idsAfter_eq_drop : w.idsAfter ids = ids.drop w.idsDrawn := by
  have ends : (w.newEnds ids).length = if w.firstEnd?.isNone then 1 else 0 := by
    rw [newEnds]
    cases w.firstEnd? <;> rfl
  have branches : w.idsForBranches ids = (w.idsForEscalation ids).drop
      (if w.needsEscalation then w.states.length + 2 else 0) := by
    rw [idsForBranches, apply_ite (IdSupply.drop _)]
    rfl
  rw [idsAfter, idsForLast, branches, idsForEscalation, idsForClosings, ends]
  simp only [IdSupply.drop_drop, idsDrawn, Nat.add_assoc]

variable {w ids}

/-- An added end node is connected when there are nodes to choose from and no repair has led
to it. -/
theorem isSome_lastSource?_iff : w.lastSource?.isSome = true ↔
    w.nodes.values ≠ [] ∧ w.firstEnd? = none ∧ w.deadEnds = [] ∧ w.needsEscalation = false ∧
      w.halfDecisions = [] := by
  have choice : (Draft.bestSource? w.entryId w.nodes.values).isSome = true ↔
      w.nodes.values ≠ [] := by
    cases w.nodes.values <;> simp [Draft.bestSource?]
  have unlinked : (w.firstEnd?.isSome || w.leadsToEnd) = false ↔ w.firstEnd? = none ∧
      w.deadEnds = [] ∧ w.needsEscalation = false ∧ w.halfDecisions = [] := by
    simp [leadsToEnd, and_assoc]
  rw [← unlinked, ← choice, lastSource?]
  cases w.firstEnd?.isSome || w.leadsToEnd <;> simp

theorem argmax_of_lastSource? (placed : ∀ n ∈ w.nodes.values, n.position.y ≠ .double .nan)
    (n : Node) (h : w.lastSource? = some n) :
    w.nodes.values.argmax (Node.rank w.entryId) = some n := by
  rw [lastSource?] at h
  split at h
  · cases h
  · rwa [Draft.bestSource?_eq_argmax placed] at h

/-- The log of a repair and the number of ids that it draws, as functions of the workflow
before it. The last change is noted when nothing else leads to an added end node. Unless a
coordinate is `nan`, it is about the first of the nodes with the highest rank. -/
theorem repair_log (keyed : w.KeyedById) (fresh : ids.FreshFor w) (now : Option Timestamp) :
    (w.repair ids now).changes.map Change.entry = w.log ids ∧
    (w.repair ids now).ids = ids.drop w.idsDrawn ∧
    (w.lastSource?.isSome = true ↔ w.nodes.values ≠ [] ∧ w.firstEnd? = none ∧
      w.deadEnds = [] ∧ w.needsEscalation = false ∧ w.halfDecisions = []) ∧
    ((∀ n ∈ w.nodes.values, n.position.y ≠ .double .nan) → ∀ n, w.lastSource? = some n →
      w.nodes.values.argmax (Node.rank w.entryId) = some n) := by
  rw [repair_eq keyed fresh]
  exact ⟨map_entry_repairChanges w ids, idsAfter_eq_drop w ids, isSome_lastSource?_iff,
    argmax_of_lastSource?⟩

/-- A loop of two states that is entered from the side and has no end. -/
def endless : Workflow where
  id := "wf"
  name := "Endless"
  nodes := ⟨[("in", ⟨"in", .trigger ⟨"create", []⟩, ⟨0, 280⟩⟩),
    ("new", ⟨"new", .state ⟨"New", none, none, [], []⟩, ⟨0, 140⟩⟩),
    ("esc", ⟨"esc", .state ⟨"Escalated", none, some 60, [], []⟩, ⟨0, 140⟩⟩)], by decide⟩
  transitions := [.plain "t1" "in" "new" none, .plain "t2" "new" "esc" none,
    .plain "t3" "esc" "new" none]
  entryId := "in"
  enabled := true
  version := 1
  description := none
  createdAt := none
  updatedAt := none

/-- The end node that is added to a loop is connected to the first of two states that are
equally low. A workflow with an end gets no such connection, but the repairs that lead to
the end. -/
theorem endless_repair_log :
    let ids : IdSupply String := ⟨stemmedId "new", 0⟩
    endless.KeyedById ∧ ids.FreshFor endless ∧ unfinished.KeyedById ∧ ids.FreshFor unfinished ∧
      (endless.repair ids none).changes.map Change.entry =
        [(.addEndNode, "new0"), (.addDeadline, "new"), (.connectEndNode, "new")] ∧
      (endless.repair ids none).ids = ids.drop 2 ∧
      (endless.nodes.values.argmax (Node.rank "in")).map Node.id = some "new" ∧
      (unfinished.repair ids none).changes.map Change.entry =
        [(.addDeadline, "new"), (.addEscalation, "new0"), (.fixBranch, "ask")] ∧
      (unfinished.repair ids none).ids = ids.drop 4 := by
  intro ids
  have keyed : endless.KeyedById := by simp [KeyedById, endless]
  have fresh : ids.FreshFor endless := IdSupply.freshFor_of_forall (by decide)
  have placed : ∀ n ∈ endless.nodes.values, n.position.y ≠ .double .nan := by decide
  have source : endless.lastSource?.map Node.id = some "new" := by decide +kernel
  have drawn : endless.idsDrawn = 2 ∧ unfinished.idsDrawn = 4 := by decide +kernel
  obtain ⟨entries, rest, -, highest⟩ := repair_log keyed fresh none
  obtain ⟨entries', rest', -, -⟩ := repair_log unfinished_keyedById unfinished_freshFor none
  obtain ⟨n, last, name⟩ := Option.map_eq_some_iff.mp source
  rw [drawn.1] at rest
  rw [drawn.2] at rest'
  refine ⟨keyed, fresh, unfinished_keyedById, unfinished_freshFor, ?_, rest, ?_, ?_, rest'⟩
  · rw [entries]
    decide +kernel
  · change Option.map Node.id (endless.nodes.values.argmax (Node.rank endless.entryId)) = _
    rw [highest placed n last, Option.map_some, name]
  · rw [entries']
    decide +kernel

end Workflow

end TicketFlow
