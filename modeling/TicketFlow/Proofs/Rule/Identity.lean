import TicketFlow.Proofs.Rule.Origin

/-!
# Rules are told apart by their ids

An id gives the family and the free text of the rule that it names, whatever the free text
looks like. Families do not mix, and the rules of states are named by keys, of which no two
are equal. So two rules can share an id only when two transitions share one, and then both
of them let tickets in or both of them move tickets. Nothing keeps transitions from sharing
an id, but one of which an end is unknown has no rule that could be confused.
-/

namespace TicketFlow

open Fallible

namespace Origin

variable {workflowId : String} {o o' : Origin}

/-- Two origins have one id exactly when their families and free texts agree. -/
theorem ruleId_eq_iff :
    o.ruleId workflowId = o'.ruleId workflowId ↔ o.family = o'.family ∧ o.name = o'.name := by
  constructor
  · exact Rule.makeId_inj o.family_mem o'.family_mem
  · rintro ⟨family, name⟩
    rw [ruleId, ruleId, family, name]

theorem ruleId_ne_of_family (h : o.family ≠ o'.family) :
    o.ruleId workflowId ≠ o'.ruleId workflowId :=
  fun same => h (ruleId_eq_iff.mp same).1

theorem ruleId_ne_of_name (h : o.name ≠ o'.name) :
    o.ruleId workflowId ≠ o'.ruleId workflowId :=
  fun same => h (ruleId_eq_iff.mp same).2

end Origin

namespace Workflow

variable {w : Workflow} {rules : List Rule} {t : Transition} {o : Origin}

/-- Both ends of a transition are keys of nodes. -/
def Resolves (w : Workflow) (t : Transition) : Prop :=
  t.source ∈ w.nodes.keys ∧ t.target ∈ w.nodes.keys

theorem entersBy_iff_resolves :
    w.entersBy t = true ↔ w.Resolves t ∧ w.isEntryTransition t = true := by
  rw [entersBy_eq_true]
  constructor
  · rintro ⟨entry, target⟩
    exact ⟨⟨source_mem_of_isEntryTransition entry, target⟩, entry⟩
  · rintro ⟨⟨-, target⟩, entry⟩
    exact ⟨entry, target⟩

theorem movesBy_iff_resolves :
    w.movesBy t = true ↔ w.Resolves t ∧ w.isEntryTransition t = false := by
  rw [movesBy_eq_true, Resolves, and_comm]

/-! ## Origins with different ids -/

theorem name_of_mem_stateOrigins {key : String} {n : Node} (h : o ∈ stateOrigins key n) :
    o.name = key := by
  obtain ⟨d, -, ⟨-, rfl⟩ | ⟨-, rfl⟩⟩ := mem_stateOrigins.mp h <;> rfl

theorem family_of_mem_stateOrigins {key : String} {n : Node} (h : o ∈ stateOrigins key n) :
    o.family ≠ "entry-" ∧ o.family ≠ "t-" := by
  obtain ⟨d, -, ⟨-, rfl⟩ | ⟨-, rfl⟩⟩ := mem_stateOrigins.mp h <;> simp [Origin.family]

/-- A state has at most one rule of each family. -/
theorem pairwise_stateOrigins (workflowId key : String) (n : Node) :
    (stateOrigins key n).Pairwise fun o o' => o.ruleId workflowId ≠ o'.ruleId workflowId := by
  have apart : (Origin.arrival key).ruleId workflowId ≠ (Origin.deadline key).ruleId workflowId :=
    Origin.ruleId_ne_of_family (by simp [Origin.family])
  rw [stateOrigins]
  cases n.data.state? with
  | none => exact .nil
  | some d =>
      dsimp only
      cases d.onEnterActions.isEmpty <;> cases d.hasDeadline <;> simp [apart]

/-- The rules of states never share an id. -/
theorem pairwise_statesOrigins (w : Workflow) :
    (w.nodes.entries.flatMap fun e => stateOrigins e.1 e.2).Pairwise
      fun o o' => o.ruleId w.id ≠ o'.ruleId w.id := by
  rw [List.pairwise_flatMap]
  refine ⟨fun e _ => pairwise_stateOrigins w.id e.1 e.2, ?_⟩
  have distinct : w.nodes.entries.Pairwise fun e e' => e.1 ≠ e'.1 :=
    List.pairwise_map.mp w.nodes.nodup_keys
  refine distinct.imp fun {e e'} other o ho o' ho' => Origin.ruleId_ne_of_name ?_
  rwa [name_of_mem_stateOrigins ho, name_of_mem_stateOrigins ho']

/-- Origins that are made from transitions in one way share an id when the transitions do. -/
theorem pairwise_map_transitions (make : Transition → Origin) {family : String}
    (families : ∀ t, (make t).family = family) (names : ∀ t, (make t).name = t.id)
    (workflowId : String) (ts : List Transition) :
    (ts.map make).Pairwise (fun o o' => o.ruleId workflowId ≠ o'.ruleId workflowId) ↔
      ts.Pairwise fun t u => t.id ≠ u.id := by
  rw [List.pairwise_map]
  have same (t u : Transition) :
      (make t).ruleId workflowId ≠ (make u).ruleId workflowId ↔ t.id ≠ u.id := by
    rw [Ne, Origin.ruleId_eq_iff]
    simp [families, names]
  simp only [same]

/-- The origins of a workflow share no id exactly when the transitions by which tickets enter
share none and those by which they move share none. -/
theorem pairwise_origins_iff (w : Workflow) :
    w.origins.Pairwise (fun o o' => o.ruleId w.id ≠ o'.ruleId w.id) ↔
      (w.transitions.filter w.entersBy).Pairwise (fun t u => t.id ≠ u.id) ∧
      (w.transitions.filter w.movesBy).Pairwise fun t u => t.id ≠ u.id := by
  have entries := pairwise_map_transitions .entry (fun _ => rfl) (fun _ => rfl) w.id
    (w.transitions.filter w.entersBy)
  have moves := pairwise_map_transitions .move (fun _ => rfl) (fun _ => rfl) w.id
    (w.transitions.filter w.movesBy)
  have states := pairwise_statesOrigins w
  rw [origins, List.pairwise_append, List.pairwise_append, entries, moves]
  constructor
  · rintro ⟨⟨entries, moves, -⟩, -, -⟩
    exact ⟨entries, moves⟩
  · rintro ⟨entries, moves⟩
    refine ⟨⟨entries, moves, fun o ho o' ho' => ?_⟩, states, fun o ho o' ho' => ?_⟩
    · obtain ⟨t, -, rfl⟩ := List.mem_map.mp ho
      obtain ⟨u, -, rfl⟩ := List.mem_map.mp ho'
      exact Origin.ruleId_ne_of_family (by simp [Origin.family])
    · obtain ⟨e, -, ho'⟩ := List.mem_flatMap.mp ho'
      obtain ⟨notEntry, notMove⟩ := family_of_mem_stateOrigins ho'
      apply Origin.ruleId_ne_of_family
      rcases List.mem_append.mp ho with ho | ho
      · obtain ⟨t, -, rfl⟩ := List.mem_map.mp ho
        exact notEntry.symm
      · obtain ⟨t, -, rfl⟩ := List.mem_map.mp ho
        exact notMove.symm

/-! ## Rules with different ids -/

/-- Two transitions have rules of one family. -/
def CompileAlike (w : Workflow) (t u : Transition) : Prop :=
  w.Resolves t ∧ w.Resolves u ∧ w.isEntryTransition t = w.isEntryTransition u

instance (w : Workflow) (t u : Transition) : Decidable (w.CompileAlike t u) :=
  inferInstanceAs (Decidable ((_ ∧ _) ∧ (_ ∧ _) ∧ _))

theorem compileAlike_iff {u : Transition} : w.CompileAlike t u ↔
    w.entersBy t = true ∧ w.entersBy u = true ∨ w.movesBy t = true ∧ w.movesBy u = true := by
  simp only [CompileAlike, entersBy_iff_resolves, movesBy_iff_resolves]
  cases w.isEntryTransition t <;> cases w.isEntryTransition u <;> simp

/-- The rules of a workflow have the ids of their origins. -/
theorem nodup_map_id_iff (keyed : w.KeyedById) (h : w.compile = .ok rules) :
    (rules.map Rule.id).Nodup ↔
      w.origins.Pairwise fun o o' => o.ruleId w.id ≠ o'.ruleId w.id := by
  have ids : w.origins.map (Origin.ruleId w.id) = rules.map Rule.id :=
    map_eq_of_forall₂ (fun o r (hr : w.IsRuleOf o r) => hr.id_eq.symm) (forall₂_origins keyed h)
  rw [← ids, List.Nodup, List.pairwise_map]

/-- Rule ids identify rules. With nodes under their own ids, the ids of the rules are pairwise
distinct exactly when no two transitions with one id have rules of one family: both of their
ends resolve, and both leave the trigger at the entry or neither does. This holds in
particular when no two transitions have one id at all. -/
theorem nodup_ids_iff (keyed : w.KeyedById) (h : w.compile = .ok rules) :
    ((rules.map Rule.id).Nodup ↔
      w.transitions.Pairwise fun t u => w.CompileAlike t u → t.id ≠ u.id) ∧
    ((w.transitions.map Transition.id).Nodup → (rules.map Rule.id).Nodup) := by
  have exact_condition : (rules.map Rule.id).Nodup ↔
      w.transitions.Pairwise fun t u => w.CompileAlike t u → t.id ≠ u.id := by
    rw [nodup_map_id_iff keyed h, pairwise_origins_iff, List.pairwise_filter, List.pairwise_filter,
      ← List.pairwise_and_iff]
    simp only [compileAlike_iff, or_imp, and_imp]
  refine ⟨exact_condition, fun distinct => exact_condition.mpr ?_⟩
  exact (List.pairwise_map.mp distinct).imp fun {t u} other (_ : w.CompileAlike t u) => other

/-- A room with a trigger at its door, where all names are alike: the transition through the
door, the one inside, the room and thereby each of the four rules. -/
def alike : Workflow :=
  sample "wf" "entry-x"

/-- The same with the transition inside twice. -/
def doubled : Workflow :=
  { alike with transitions := alike.transitions ++ alike.transitions.drop 1 }

/-- Names that are alike in different families keep the rules apart, two transitions with one
id in the same family do not. -/
theorem alike_nodup_ids :
    (alike.KeyedById ∧ ∃ rules, alike.compile = .ok rules ∧ rules.length = 4 ∧
      (rules.map Rule.id).Nodup) ∧
    doubled.KeyedById ∧ ∃ rules, doubled.compile = .ok rules ∧ ¬(rules.map Rule.id).Nodup := by
  have keyed : alike.KeyedById := by simp [KeyedById, alike, sample, sampleDoor]
  have keyed' : doubled.KeyedById := keyed
  refine ⟨⟨keyed, _, rfl, rfl, ?_⟩, keyed', _, rfl, ?_⟩
  · exact (nodup_ids_iff keyed rfl).1.mpr (by decide)
  · exact mt (nodup_ids_iff keyed' rfl).1.mp (by decide)

end Workflow

end TicketFlow
