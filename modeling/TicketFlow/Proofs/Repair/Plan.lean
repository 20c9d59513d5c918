import TicketFlow.Proofs.Repair.Pass
import TicketFlow.Proofs.Workflow.Validity

/-!
# What a repair adds

The nodes, transitions and changes of a whole repair, each as a function of the
workflow before it. Every repair looks at a draft that the earlier ones have changed.
With fresh ids none of these changes is visible to a later repair, apart from
whether the end node that was added has been reached.
-/

namespace TicketFlow

namespace Workflow

/-- A name that stands in a workflow as a key of a node, as the entry or at an end of a
transition. -/
def Mentions (w : Workflow) (name : String) : Prop :=
  name ∈ w.nodes.keys ∨ w.Referenced name

end Workflow

/-- The ids that are left are non-empty, differ from each other and stand nowhere in a
workflow. -/
structure IdSupply.FreshFor (ids : IdSupply String) (w : Workflow) : Prop where
  ne_empty : ∀ i, ids.drawn ≤ i → ids.ids i ≠ ""
  injective : ∀ i j, ids.drawn ≤ i → ids.drawn ≤ j → ids.ids i = ids.ids j → i = j
  not_mentioned : ∀ i, ids.drawn ≤ i → ¬w.Mentions (ids.ids i)

/-- Ids with a stem are fresh for a workflow with shorter names. -/
theorem IdSupply.freshFor_stemmed {stem : String} {w : Workflow}
    (short : ∀ name, w.Mentions name → name.length ≤ stem.length) :
    (⟨stemmedId stem, 0⟩ : IdSupply String).FreshFor w := by
  have longer : ∀ i, stem.length < (stemmedId stem i).length := by
    intro i
    have digits : toString i ≠ "" := Nat.repr_ne_empty
    rw [stemmedId, String.length_append]
    have := String.length_eq_zero_iff.not.mpr digits
    omega
  refine ⟨fun i _ empty => ?_, fun i j _ _ same => ?_, fun i _ mentioned => ?_⟩
  · change stemmedId stem i = "" at empty
    exact absurd (empty ▸ longer i) (Nat.not_lt_zero _)
  · exact Nat.repr_inj.mp (String.append_right_inj stem |>.mp same)
  · exact absurd (short _ mentioned) (Nat.not_le.mpr (longer i))

/-- The same for a workflow at hand, whose names can be gone through. -/
theorem IdSupply.freshFor_of_forall {stem : String} {w : Workflow}
    (short : ∀ name ∈ w.entryId :: w.nodes.keys ++
      w.transitions.flatMap (fun t => [t.source, t.target]), name.length ≤ stem.length) :
    (⟨stemmedId stem, 0⟩ : IdSupply String).FreshFor w := by
  refine IdSupply.freshFor_stemmed fun name mentioned => short name ?_
  rw [List.mem_append, List.mem_cons, List.mem_flatMap]
  rcases mentioned with mem | rfl | ⟨t, ht, rfl | rfl⟩
  · exact .inl (.inr mem)
  · exact .inl (.inl rfl)
  · exact .inr ⟨t, ht, List.mem_cons_self⟩
  · exact .inr ⟨t, ht, List.mem_cons_of_mem _ List.mem_cons_self⟩

namespace Workflow

variable (w : Workflow) (ids : IdSupply String)

/-- The end node for a workflow without one. -/
def endNode (id : String) : Node :=
  ⟨id, .terminal ⟨"Closed"⟩, ⟨300, w.lowest.addInt 140⟩⟩

def newEnds : List Node :=
  if w.firstEnd?.isSome then [] else [w.endNode ids.next]

/-- The end node that the repairs lead to. -/
def goal : Node :=
  w.firstEnd?.getD (w.endNode ids.next)

def deadEnds : List (String × Node) :=
  w.nodes.entries.filter fun e => w.isDeadEnd e.1 e.2

def idsForClosings : IdSupply String :=
  ids.drop (w.newEnds ids).length

def closings : List Transition :=
  (w.idsForClosings ids).assign (Draft.closing (w.goal ids).id) w.deadEnds

def states : List Node :=
  w.nodes.values.filter Node.isState

/-- Whether there is a state, and none that takes up escalated tickets. -/
def needsEscalation : Bool :=
  w.nodes.values.any Node.isState && !w.nodes.values.any Node.isEscalation

def idsForEscalation : IdSupply String :=
  (w.idsForClosings ids).drop w.deadEnds.length

def newStates : List Node :=
  if w.needsEscalation then
    [Draft.escalationNode (w.idsForEscalation ids).next (w.goal ids)]
  else []

/-- A transition from every state to the one that takes up escalated tickets, and one
from there to the end. -/
def escalations : List Transition :=
  if w.needsEscalation then
    let id := (w.idsForEscalation ids).next
    let rest := (w.idsForEscalation ids).advance
    rest.assign (Draft.breach id) w.states ++
      [Draft.resolution id (w.goal ids).id (rest.drop w.states.length).next]
  else []

def halfDecisions : List (String × Node) :=
  w.nodes.entries.filter fun e => w.lacksBranch e.1 e.2

def idsForBranches : IdSupply String :=
  if w.needsEscalation then (w.idsForEscalation ids).drop (w.states.length + 2)
  else w.idsForEscalation ids

def branches : List Transition :=
  (w.idsForBranches ids).assign (Draft.branch w (w.goal ids).id) w.halfDecisions

/-- Whether one of the repairs leads to an end node. -/
def leadsToEnd : Bool :=
  !w.deadEnds.isEmpty || w.needsEscalation || !w.halfDecisions.isEmpty

/-- The node that an added end node is connected to, if nothing else leads there. -/
def lastSource? : Option Node :=
  if w.firstEnd?.isSome || w.leadsToEnd then none
  else Draft.bestSource? w.entryId w.nodes.values

def idsForLast : IdSupply String :=
  (w.idsForBranches ids).drop w.halfDecisions.length

def lastLinks : List Transition :=
  (w.idsForLast ids).assign (Draft.lastLink (w.goal ids).id) w.lastSource?.toList

/-- The nodes that a repair adds. -/
def newNodes : List Node :=
  w.newEnds ids ++ w.newStates ids

/-- The transitions that a repair adds. -/
def newLinks : List Transition :=
  w.closings ids ++ w.escalations ids ++ w.branches ids ++ w.lastLinks ids

/-- The changes that a repair notes. -/
def repairChanges : List Change :=
  ((w.newEnds ids).map fun n => ⟨.addEndNode, "Added missing end node", n.id⟩) ++
  w.deadEnds.map Draft.closingNote ++
  (w.nodes.entries.filterMap fun e => e.2.openState?.map (Draft.deadlineChange e.1)) ++
  ((w.newStates ids).map fun n => Draft.escalationNote n.id) ++
  w.halfDecisions.map (Draft.branchNote w) ++
  w.lastSource?.toList.map Draft.lastNote

def idsAfter : IdSupply String :=
  (w.idsForLast ids).drop w.lastSource?.toList.length

end Workflow

end TicketFlow
