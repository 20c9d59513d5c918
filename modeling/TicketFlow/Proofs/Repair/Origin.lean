import TicketFlow.Proofs.Repair.Validity
import TicketFlow.Proofs.Rule.Origin

/-!
# Where the rules of a repaired workflow come from

A repair changes nothing that a rule is compiled from, so what had a rule has the same one
afterwards, and the order stays. What it adds has rules of its own: one for each
transition, and one for each state that gets a deadline.
-/

namespace TicketFlow

namespace StateData

/-- A state with its deadline, or with the one that its label suggests if it has none. -/
def timed (d : StateData) : StateData :=
  if d.hasDeadline then d else d.withSuggestedDeadline

variable {d : StateData}

theorem timed_of_hasDeadline (h : d.hasDeadline = true) : d.timed = d := if_pos h

theorem timed_of_not_hasDeadline (h : d.hasDeadline = false) :
    d.timed = d.withSuggestedDeadline := by
  rw [timed, h]
  rfl

@[simp] theorem hasDeadline_timed : d.timed.hasDeadline = true := by
  rw [timed]
  split
  case isTrue h => exact h
  case isFalse => exact hasDeadline_withSuggestedDeadline d

@[simp] theorem label_timed : d.timed.label = d.label := by
  rw [timed]
  split <;> rfl

@[simp] theorem onEnterActions_timed : d.timed.onEnterActions = d.onEnterActions := by
  rw [timed]
  split <;> rfl

end StateData

namespace Node

variable {n : Node}

/-- A state with a deadline is not open, and one without is. -/
theorem openState?_of_state {d : StateData} (data : n.data = .state d) :
    n.openState? = if d.hasDeadline then none else some d := by
  have state : n.data.state? = some d := NodeData.state?_eq_some.mpr data
  rw [openState?, state, Option.filter_some]
  cases d.hasDeadline <;> rfl

/-- The payload of a state gets a deadline. -/
theorem data_withDeadline_of_state {d : StateData} (data : n.data = .state d) :
    n.withDeadline.data = .state d.timed := by
  rw [withDeadline, openState?_of_state data]
  cases h : d.hasDeadline with
  | true => rw [StateData.timed_of_hasDeadline h, ← data]; rfl
  | false => rw [StateData.timed_of_not_hasDeadline h]; rfl

theorem state?_withDeadline : n.withDeadline.data.state? = n.data.state?.map StateData.timed := by
  cases h : n.data.state? with
  | some d => rw [data_withDeadline_of_state (NodeData.state?_eq_some.mp h)]; rfl
  | none =>
      have isState : n.isState = false := by
        cases data : n.data <;> simp_all [isState, type, NodeData.type, NodeData.state?]
      rw [withDeadline_of_not_isState isState, h]
      rfl

theorem trigger?_withDeadline (n : Node) : n.withDeadline.data.trigger? = n.data.trigger? :=
  apply_withDeadline NodeData.trigger? (fun _ => rfl) n

theorem exitGuard_withDeadline (branchKey : Option String) (n : Node) :
    n.withDeadline.data.exitGuard branchKey = n.data.exitGuard branchKey :=
  apply_withDeadline (fun data => data.exitGuard branchKey) (fun _ => rfl) n

theorem exitKind_withDeadline (n : Node) : n.withDeadline.data.exitKind = n.data.exitKind :=
  apply_withDeadline NodeData.exitKind (fun _ => rfl) n

end Node

namespace Workflow

variable {w : Workflow} {ids : IdSupply String} {now : Option Timestamp}
variable {r : Rule} {t : Transition} {key : String} {o : Origin}

/-- The workflow that a repair with fresh ids leaves. -/
def grown (w : Workflow) (ids : IdSupply String) (now : Option Timestamp) : Workflow :=
  { w with
    nodes := w.grownNodes ids
    transitions := w.transitions ++ w.newLinks ids
    updatedAt := now
    version := w.version.addInt 1 }

theorem workflow_repair (keyed : w.KeyedById) (fresh : ids.FreshFor w) :
    (w.repair ids now).workflow = w.grown ids now := by
  rw [repair_eq keyed fresh]
  rfl

theorem changes_repair (keyed : w.KeyedById) (fresh : ids.FreshFor w) :
    (w.repair ids now).changes = w.repairChanges ids := by
  rw [repair_eq keyed fresh]

/-- An old node stands in the repaired workflow, with a deadline if it is a state. -/
theorem withDeadline_mem_grown (fresh : ids.FreshFor w) {n : Node}
    (mem : (key, n) ∈ w.nodes.entries) :
    (key, n.withDeadline) ∈ (w.grown ids now).nodes.entries := by
  rw [grown, entries_grownNodes fresh]
  exact List.mem_append_left _ (List.mem_map.mpr ⟨_, mem, rfl⟩)

theorem newNode_mem_grown (fresh : ids.FreshFor w) {n : Node} (mem : n ∈ w.newNodes ids) :
    (n.id, n) ∈ (w.grown ids now).nodes.entries := by
  rw [grown, entries_grownNodes fresh]
  exact List.mem_append_right _ (List.mem_map_of_mem mem)

/-- A node of a repaired workflow is an old one or a new one. -/
theorem mem_grown_cases (fresh : ids.FreshFor w) {n : Node}
    (mem : (key, n) ∈ (w.grown ids now).nodes.entries) :
    (∃ old, (key, old) ∈ w.nodes.entries ∧ n = old.withDeadline) ∨
      n ∈ w.newNodes ids ∧ key = n.id := by
  rw [grown, entries_grownNodes fresh, List.mem_append] at mem
  rcases mem with mem | mem
  · obtain ⟨e, old, same⟩ := List.mem_map.mp mem
    cases same
    exact .inl ⟨e.2, old, rfl⟩
  · obtain ⟨new, hnew, same⟩ := List.mem_map.mp mem
    cases same
    exact .inr ⟨hnew, rfl⟩

theorem keyedById_grown (keyed : w.KeyedById) (fresh : ids.FreshFor w) :
    (w.grown ids now).KeyedById := by
  intro e mem
  rcases mem_grown_cases fresh mem with ⟨old, hold, same⟩ | ⟨-, same⟩
  · rw [same, Node.id_withDeadline]
    exact keyed _ hold
  · exact same.symm

/-! ## What the old names mean -/

theorem mentions_entryId (w : Workflow) : w.Mentions w.entryId :=
  .inr (.inl rfl)

theorem mentions_source (ht : t ∈ w.transitions) : w.Mentions t.source :=
  .inr (.inr ⟨t, ht, .inl rfl⟩)

theorem mentions_target (ht : t ∈ w.transitions) : w.Mentions t.target :=
  .inr (.inr ⟨t, ht, .inr rfl⟩)

/-- Under an old name there is what was there before, with a deadline if it is a state. -/
theorem get?_grown (fresh : ids.FreshFor w) (h : w.Mentions key) :
    (w.grown ids now).nodes.get? key = (w.nodes.get? key).map Node.withDeadline := by
  have absent : key ∉ ((w.newNodes ids).map Node.entry).map Prod.fst := by
    intro mem
    simp only [List.map_map, List.mem_map] at mem
    obtain ⟨n, hn, rfl⟩ := mem
    obtain ⟨i, hi, id⟩ := id_of_mem_newNodes hn
    have mentioned : w.Mentions n.id := h
    exact fresh.not_mentioned i hi (id ▸ mentioned)
  change Table.lookup key (w.grownNodes ids).entries = _
  rw [entries_grownNodes fresh, Table.lookup_append, Table.lookup_map,
    Table.lookup_eq_none_of_not_mem absent, Option.or_none]
  rfl

theorem contains_grown (fresh : ids.FreshFor w) (h : w.Mentions key) :
    (w.grown ids now).nodes.contains key = w.nodes.contains key := by
  rw [← Table.isSome_get?, ← Table.isSome_get?, get?_grown fresh h, Option.isSome_map]

theorem entryTrigger?_grown (fresh : ids.FreshFor w) :
    (w.grown ids now).entryTrigger? = w.entryTrigger? := by
  have entry : entry? (w.grown ids now) = ( entry? w).map Node.withDeadline := by
    unfold entry?
    change (if w.entryId = "" then none else (w.grown ids now).nodes.get? w.entryId) = _
    rw [get?_grown fresh w.mentions_entryId]
    split <;> rfl
  rw [entryTrigger?, entryTrigger?, entry, Option.bind_map]
  simp [Node.trigger?_withDeadline]

theorem isEntryTransition_grown (fresh : ids.FreshFor w) (t : Transition) :
    (w.grown ids now).isEntryTransition t = w.isEntryTransition t := by
  rw [isEntryTransition, isEntryTransition, entryTrigger?_grown fresh]
  rfl

theorem entersBy_grown (fresh : ids.FreshFor w) (ht : t ∈ w.transitions) :
    (w.grown ids now).entersBy t = w.entersBy t := by
  rw [entersBy, entersBy, isEntryTransition_grown fresh,
    contains_grown fresh (mentions_target ht)]

theorem movesBy_grown (fresh : ids.FreshFor w) (ht : t ∈ w.transitions) :
    (w.grown ids now).movesBy t = w.movesBy t := by
  rw [movesBy, movesBy, isEntryTransition_grown fresh, contains_grown fresh (mentions_source ht),
    contains_grown fresh (mentions_target ht)]

theorem mentions_of_stateAt? {d : StateData} (h : w.stateAt? key = some d) : w.Mentions key := by
  obtain ⟨n, hn, -⟩ := Option.bind_eq_some_iff.mp h
  exact .inl (Table.mem_keys_iff.mpr ⟨n, hn⟩)

theorem stateAt?_grown (fresh : ids.FreshFor w) (h : w.Mentions key) :
    (w.grown ids now).stateAt? key = (w.stateAt? key).map StateData.timed := by
  rw [stateAt?, stateAt?, get?_grown fresh h, Option.bind_map, Option.map_bind]
  simp [Node.state?_withDeadline]

/-! ## Old rules -/

/-- What had a rule has the same rule after a repair. -/
theorem IsRuleOf.grown (fresh : ids.FreshFor w) (mem : o ∈ w.origins) (h : w.IsRuleOf o r) :
    (w.grown ids now).IsRuleOf o r := by
  cases o with
  | entry t =>
      obtain ⟨ht, -⟩ := entry_mem_origins.mp mem
      obtain ⟨trigger, htrigger, hrule⟩ := h
      obtain ⟨target, htarget, rfl⟩ := entryRule_eq_some.mp hrule
      refine ⟨trigger, (entryTrigger?_grown fresh).trans htrigger, ?_⟩
      apply entryRule_eq_some.mpr
      refine ⟨target.withDeadline, ?_, ?_⟩
      · rw [get?_grown fresh (mentions_target ht), htarget]
        rfl
      · rw [Node.label_withDeadline, Node.id_withDeadline]
        rfl
  | move t =>
      obtain ⟨ht, -⟩ := move_mem_origins.mp mem
      obtain ⟨source, target, guard, hsource, htarget, hguard, rfl⟩ := transitionRule_eq_some.mp h
      apply transitionRule_eq_some.mpr
      refine ⟨source.withDeadline, target.withDeadline, guard, ?_, ?_, ?_, ?_⟩
      · rw [get?_grown fresh (mentions_source ht), hsource]
        rfl
      · rw [get?_grown fresh (mentions_target ht), htarget]
        rfl
      · rw [Node.exitGuard_withDeadline, hguard]
      · rw [Node.exitKind_withDeadline, Node.label_withDeadline, Node.label_withDeadline,
          Node.id_withDeadline, Node.id_withDeadline]
        rfl
  | arrival key =>
      obtain ⟨d, state, hrule⟩ := h
      refine ⟨d.timed, ?_, ?_⟩
      · rw [stateAt?_grown fresh (mentions_of_stateAt? state), state]
        rfl
      · rw [enterRule, StateData.label_timed, StateData.onEnterActions_timed]
        exact hrule
  | deadline key =>
      obtain ⟨d, state, hrule⟩ := h
      have deadline : d.hasDeadline = true := by
        rw [← Bool.not_eq_false]
        intro without
        rw [deadlineRule_of_not_hasDeadline without] at hrule
        cases hrule
      refine ⟨d, ?_, hrule⟩
      rw [stateAt?_grown fresh (mentions_of_stateAt? state), state, Option.map_some,
        StateData.timed_of_hasDeadline deadline]

/-! ## New rules -/

/-- A state without a deadline gets one more rule. -/
theorem stateOrigins_withDeadline (key : String) (n : Node) :
    stateOrigins key n.withDeadline =
      stateOrigins key n ++ n.openState?.toList.map fun _ => .deadline key := by
  rw [stateOrigins, stateOrigins, Node.state?_withDeadline]
  cases state : n.data.state? with
  | none => simp [Node.openState?, state]
  | some d =>
      rw [Node.openState?_of_state (NodeData.state?_eq_some.mp state)]
      cases deadline : d.hasDeadline <;> simp [deadline]

/-- New nodes have no rules of their own. -/
theorem stateOrigins_of_mem_newNodes {n : Node} (h : n ∈ w.newNodes ids) (key : String) :
    stateOrigins key n = [] := by
  rcases data_of_mem_newNodes h with data | data <;>
    simp [stateOrigins, data, NodeData.state?, StateData.hasDeadline]

theorem stateOrigins_grown (fresh : ids.FreshFor w) :
    ((w.grown ids now).nodes.entries.flatMap fun e => stateOrigins e.1 e.2) =
      w.nodes.entries.flatMap fun e =>
        stateOrigins e.1 e.2 ++ e.2.openState?.toList.map fun _ => .deadline e.1 := by
  have none : (((w.newNodes ids).map Node.entry).flatMap fun e => stateOrigins e.1 e.2) = [] := by
    rw [List.flatMap_map, List.flatMap_eq_nil_iff]
    exact fun n hn => stateOrigins_of_mem_newNodes hn n.id
  change ((w.grownNodes ids).entries.flatMap _) = _
  rw [entries_grownNodes fresh, List.flatMap_append, none, List.append_nil, List.flatMap_map]
  simp only [stateOrigins_withDeadline]

/-- The origins of a repaired workflow. New transitions follow the old ones of their kind. -/
theorem origins_grown (fresh : ids.FreshFor w) : (w.grown ids now).origins =
    ((w.transitions.filter w.entersBy).map .entry ++
      ((w.newLinks ids).filter (w.grown ids now).entersBy).map .entry) ++
    ((w.transitions.filter w.movesBy).map .move ++
      ((w.newLinks ids).filter (w.grown ids now).movesBy).map .move) ++
    w.nodes.entries.flatMap fun e =>
      stateOrigins e.1 e.2 ++ e.2.openState?.toList.map fun _ => .deadline e.1 := by
  have enters : w.transitions.filter (w.grown ids now).entersBy =
      w.transitions.filter w.entersBy :=
    List.filter_congr fun t ht => entersBy_grown fresh ht
  have moves : w.transitions.filter (w.grown ids now).movesBy =
      w.transitions.filter w.movesBy :=
    List.filter_congr fun t ht => movesBy_grown fresh ht
  have transitions : (w.grown ids now).transitions = w.transitions ++ w.newLinks ids := rfl
  rw [origins, stateOrigins_grown fresh, transitions, List.filter_append, List.filter_append,
    enters, moves, List.map_append, List.map_append]

theorem origins_sublist (fresh : ids.FreshFor w) :
    w.origins.Sublist (w.grown ids now).origins := by
  have states := List.Sublist.flatMap_right w.nodes.entries fun e _ =>
    List.sublist_append_left (stateOrigins e.1 e.2)
      (e.2.openState?.toList.map fun _ => Origin.deadline e.1)
  rw [origins_grown fresh]
  apply List.Sublist.append _ states
  apply List.Sublist.append <;> exact List.sublist_append_left _ _

/-- A transition that a repair adds has ends that resolve, so it enters or moves. -/
theorem movesBy_newLinks (keyed : w.KeyedById) (fresh : ids.FreshFor w)
    (h : t ∈ w.newLinks ids) :
    (w.grown ids now).movesBy t = !(w.grown ids now).entersBy t := by
  obtain ⟨source, target⟩ := newLinks_resolve keyed fresh h
  have knownSource : (w.grown ids now).nodes.contains t.source = true :=
    (Table.contains_iff _ _).mpr source
  have knownTarget : (w.grown ids now).nodes.contains t.target = true :=
    (Table.contains_iff _ _).mpr target
  rw [movesBy, entersBy, knownSource, knownTarget, Bool.and_true, Bool.and_true, Bool.and_true]

/-- A state that gets a deadline has one origin more. -/
theorem length_stateOrigins (entries : List (String × Node)) :
    (entries.flatMap fun e =>
      stateOrigins e.1 e.2 ++ e.2.openState?.toList.map fun _ => .deadline e.1).length =
    (entries.flatMap fun e => stateOrigins e.1 e.2).length +
      (entries.filterMap fun e => e.2.openState?).length := by
  induction entries with
  | nil => rfl
  | cons e rest ih =>
      rw [List.flatMap_cons, List.flatMap_cons, List.length_append, ih, List.filterMap_cons,
        List.length_append, List.length_append, List.length_map]
      cases e.2.openState? with
      | none =>
          simp only [Option.toList_none, List.length_nil]
          omega
      | some d =>
          simp only [Option.toList_some, List.length_cons, List.length_nil]
          omega

theorem length_origins_grown (keyed : w.KeyedById) (fresh : ids.FreshFor w) :
    (w.grown ids now).origins.length = w.origins.length + (w.newLinks ids).length +
      (w.nodes.entries.filterMap fun e => e.2.openState?).length := by
  have links : (w.newLinks ids).length =
      ((w.newLinks ids).filter (w.grown ids now).entersBy).length +
        ((w.newLinks ids).filter (w.grown ids now).movesBy).length := by
    rw [List.filter_congr fun t ht => movesBy_newLinks keyed fresh ht]
    exact List.length_eq_length_filter_add _
  rw [origins_grown fresh, origins]
  simp only [List.length_append, List.length_map, length_stateOrigins]
  omega

end Workflow

end TicketFlow
