import TicketFlow.Proofs.Repair.Plan

/-!
# A repair adds what is planned

Each repair in turn is computed on the draft that the ones before it leave. The
draft is always the workflow with more nodes and more transitions, so only what a
repair asks of the added ones has to be settled: an added transition leaves no
condition with an exit of its own, and the end node is the first one throughout.
-/

namespace TicketFlow

namespace IdSupply.FreshFor

variable {ids : IdSupply String} {w : Workflow}

theorem drop (fresh : ids.FreshFor w) (count : Nat) : (ids.drop count).FreshFor w where
  ne_empty i h := fresh.ne_empty i (Nat.le_of_add_right_le h)
  injective i j hi hj :=
    fresh.injective i j (Nat.le_of_add_right_le hi) (Nat.le_of_add_right_le hj)
  not_mentioned i h := fresh.not_mentioned i (Nat.le_of_add_right_le h)

theorem next_not_mem (fresh : ids.FreshFor w) : ids.next ∉ w.nodes.keys :=
  fun h => fresh.not_mentioned ids.drawn (Nat.le_refl _) (.inl h)

end IdSupply.FreshFor

/-- A node under its own id. -/
def Node.entry (n : Node) : String × Node :=
  (n.id, n)

/-- A draft of a workflow with other nodes and with more transitions. -/
def Draft.over (w : Workflow) (nodes : Table Node) (links : List Transition)
    (ids : IdSupply String) (changes : List Change) (addedEnd? : Option String) : Draft :=
  ⟨{ w with nodes := nodes, transitions := w.transitions ++ links }, ids, changes, addedEnd?⟩

namespace Workflow

variable (w : Workflow) (ids : IdSupply String)

/-- The nodes once there is an end node. -/
def endedNodes : Table Node :=
  if w.firstEnd?.isSome then w.nodes else w.nodes.insert ids.next (w.endNode ids.next)

/-- The nodes once the states have deadlines. -/
def timedNodes : Table Node :=
  (w.endedNodes ids).mapEntries fun _ n => n.withDeadline

/-- The nodes once there is a state that takes up escalated tickets. -/
def grownNodes : Table Node :=
  if w.needsEscalation then
    (w.timedNodes ids).insert (w.idsForEscalation ids).next
      (Draft.escalationNode (w.idsForEscalation ids).next (w.goal ids))
  else w.timedNodes ids

variable {w ids}

theorem mem_newEnds {n : Node} (h : n ∈ w.newEnds ids) :
    w.firstEnd? = none ∧ n = w.endNode ids.next := by
  rw [newEnds] at h
  cases e : w.firstEnd? <;> simp_all

theorem isEnd_of_mem_newEnds {n : Node} (h : n ∈ w.newEnds ids) : n.isEnd = true := by
  obtain ⟨-, rfl⟩ := mem_newEnds h
  rfl

theorem mem_newStates {n : Node} (h : n ∈ w.newStates ids) :
    w.needsEscalation = true ∧
      n = Draft.escalationNode (w.idsForEscalation ids).next (w.goal ids) := by
  rw [newStates] at h
  split at h
  case isTrue needed => exact ⟨needed, List.mem_singleton.mp h⟩
  case isFalse => exact absurd h List.not_mem_nil

theorem entries_endedNodes (fresh : ids.FreshFor w) :
    (w.endedNodes ids).entries = w.nodes.entries ++ (w.newEnds ids).map Node.entry := by
  rw [endedNodes, newEnds]
  split
  · simp
  · rw [Table.entries_insert_of_not_mem fresh.next_not_mem]
    rfl

theorem entries_timedNodes (fresh : ids.FreshFor w) :
    (w.timedNodes ids).entries = (w.nodes.entries.map fun e => (e.1, e.2.withDeadline)) ++
      (w.newEnds ids).map Node.entry := by
  have same : ∀ n ∈ w.newEnds ids, n.withDeadline = n := fun n h =>
    Node.withDeadline_of_not_isState (Node.not_isState_of_isEnd (isEnd_of_mem_newEnds h))
  rw [timedNodes, Table.entries_mapEntries, entries_endedNodes fresh, List.map_append,
    List.map_map]
  congr 1
  refine List.map_congr_left fun n h => ?_
  simp [Node.entry, same n h]

/-- The id of the state that takes up escalated tickets is not taken. -/
theorem escalationId_not_mem (fresh : ids.FreshFor w) :
    (w.idsForEscalation ids).next ∉ (w.timedNodes ids).keys := by
  have absent : (w.idsForEscalation ids).next ∉ w.nodes.keys :=
    ((fresh.drop _).drop _).next_not_mem
  rw [timedNodes, Table.keys_mapEntries, Table.keys_eq_map_entries, entries_endedNodes fresh,
    List.map_append, List.mem_append, not_or]
  refine ⟨absent, fun h => ?_⟩
  simp only [List.mem_map] at h
  obtain ⟨e, ⟨n, hn, rfl⟩, same⟩ := h
  obtain ⟨none, rfl⟩ := mem_newEnds hn
  have one : (w.newEnds ids).length = 1 := by simp [newEnds, none]
  have index := fresh.injective _ _ (Nat.le_refl _)
    (by simp [idsForEscalation, idsForClosings, IdSupply.drop, Nat.add_assoc]) same
  simp only [idsForEscalation, idsForClosings, IdSupply.drop, one] at index
  omega

/-- A repaired workflow has the nodes from before, the states among them with
deadlines, and then the new ones. -/
theorem entries_grownNodes (fresh : ids.FreshFor w) :
    (w.grownNodes ids).entries = (w.nodes.entries.map fun e => (e.1, e.2.withDeadline)) ++
      (w.newNodes ids).map Node.entry := by
  rw [grownNodes, newNodes, newStates]
  split
  · rw [Table.entries_insert_of_not_mem (escalationId_not_mem fresh), entries_timedNodes fresh]
    simp [Node.entry, Draft.escalationNode]
  · rw [entries_timedNodes fresh]
    simp

theorem values_endedNodes (fresh : ids.FreshFor w) :
    (w.endedNodes ids).values = w.nodes.values ++ w.newEnds ids := by
  simp [Table.values, entries_endedNodes fresh, Node.entry, Function.comp_def]

theorem values_timedNodes (fresh : ids.FreshFor w) :
    (w.timedNodes ids).values = w.nodes.values.map Node.withDeadline ++ w.newEnds ids := by
  simp [Table.values, entries_timedNodes fresh, Node.entry, Function.comp_def]

theorem values_grownNodes (fresh : ids.FreshFor w) :
    (w.grownNodes ids).values = w.nodes.values.map Node.withDeadline ++ w.newNodes ids := by
  simp [Table.values, entries_grownNodes fresh, Node.entry, Function.comp_def]

/-! ## The end node -/

theorem isEnd_goal : (w.goal ids).isEnd = true := by
  rw [goal]
  cases h : w.firstEnd? with
  | none => rfl
  | some n => exact List.find?_some h

theorem firstEnd?_endedNodes (fresh : ids.FreshFor w) :
    (w.endedNodes ids).values.find? Node.isEnd = some (w.goal ids) := by
  have isEnd : (w.endNode ids.next).isEnd = true := rfl
  rw [values_endedNodes fresh, List.find?_append]
  rw [goal, newEnds]
  change (Option.or w.firstEnd? _) = _
  cases h : w.firstEnd? with
  | none => simp [isEnd]
  | some n => rfl

theorem firstEnd?_timedNodes (fresh : ids.FreshFor w) :
    (w.timedNodes ids).values.find? Node.isEnd = some (w.goal ids) := by
  have same : (w.goal ids).withDeadline = w.goal ids :=
    Node.withDeadline_of_not_isState (Node.not_isState_of_isEnd isEnd_goal)
  have values : (w.timedNodes ids).values = (w.endedNodes ids).values.map Node.withDeadline := by
    simp [timedNodes, Table.values, Function.comp_def]
  rw [values, List.find?_map]
  simp [firstEnd?_endedNodes fresh, same]

theorem firstEnd?_grownNodes (fresh : ids.FreshFor w) :
    (w.grownNodes ids).values.find? Node.isEnd = some (w.goal ids) := by
  have first := firstEnd?_timedNodes fresh
  rw [values_timedNodes fresh] at first
  rw [values_grownNodes fresh, newNodes, ← List.append_assoc, List.find?_append, first]
  rfl

/-! ## The repairs one by one -/

variable {nodes : Table Node} {links : List Transition} {supply : IdSupply String}
  {changes : List Change} {added? : Option String}

theorem addMissingEnd_start : (Draft.start w ids).addMissingEnd =
    .over w (w.endedNodes ids) [] (w.idsForClosings ids)
      ((w.newEnds ids).map fun n => ⟨.addEndNode, "Added missing end node", n.id⟩)
      ((w.newEnds ids).head?.map Node.id) := by
  rw [Draft.addMissingEnd, Draft.start]
  cases h : w.firstEnd? with
  | some n => simp [h, Draft.over, endedNodes, idsForClosings, newEnds]
  | none =>
      simp [h, Draft.over, endedNodes, idsForClosings, newEnds, Draft.addNode, Draft.record,
        endNode]

theorem connectDeadEnds_over (fresh : ids.FreshFor w) :
    (Draft.over w (w.endedNodes ids) [] (w.idsForClosings ids) changes added?).connectDeadEnds =
      .over w (w.endedNodes ids) (w.closings ids) (w.idsForEscalation ids)
        (changes ++ w.deadEnds.map Draft.closingNote) added? := by
  have first : (Draft.over w (w.endedNodes ids) [] (w.idsForClosings ids) changes
      added?).workflow.firstEnd? = some (w.goal ids) := firstEnd?_endedNodes fresh
  have none : ((w.newEnds ids).map Node.entry).filter (fun e => w.isDeadEnd e.1 e.2) = [] := by
    simp only [List.filter_eq_nil_iff, List.mem_map]
    rintro e ⟨n, hn, rfl⟩
    simp [isDeadEnd, Node.entry, isEnd_of_mem_newEnds hn]
  have same : ∀ key n, (Draft.over w (w.endedNodes ids) [] (w.idsForClosings ids) changes
      added?).workflow.isDeadEnd key n = w.isDeadEnd key n := fun key n => by
    simp [isDeadEnd, outgoing, Draft.over]
  have items : ((w.endedNodes ids).entries.filter fun e => (Draft.over w (w.endedNodes ids) []
      (w.idsForClosings ids) changes added?).workflow.isDeadEnd e.1 e.2) = w.deadEnds := by
    simp only [same, entries_endedNodes fresh, List.filter_append, none, List.append_nil, deadEnds]
  rw [Draft.connectDeadEnds_eq first]
  change Draft.extend _ _ _ (List.filter _ (w.endedNodes ids).entries) = _
  rw [items]
  simp [Draft.over, Draft.extend, closings, idsForEscalation, List.map_eq_flatMap]

theorem addDeadlines_over (fresh : ids.FreshFor w) :
    (Draft.over w (w.endedNodes ids) links supply changes added?).addDeadlines =
      .over w (w.timedNodes ids) links supply
        (changes ++ w.nodes.entries.filterMap fun e =>
          e.2.openState?.map (Draft.deadlineChange e.1)) added? := by
  have none : ((w.newEnds ids).map Node.entry).filterMap
      (fun e => e.2.openState?.map (Draft.deadlineChange e.1)) = [] := by
    simp only [List.filterMap_eq_nil_iff, List.mem_map]
    rintro e ⟨n, hn, rfl⟩
    obtain ⟨-, rfl⟩ := mem_newEnds hn
    rfl
  simp only [Draft.addDeadlines, Draft.over, entries_endedNodes fresh, List.filterMap_append, none,
    List.append_nil, timedNodes]

theorem addEscalation_over (fresh : ids.FreshFor w) :
    (Draft.over w (w.timedNodes ids) links (w.idsForEscalation ids) changes added?).addEscalation =
      .over w (w.grownNodes ids) (links ++ w.escalations ids) (w.idsForBranches ids)
        (changes ++ (w.newStates ids).map fun n => Draft.escalationNote n.id) added? := by
  have first : (Draft.over w (w.timedNodes ids) links (w.idsForEscalation ids) changes
      added?).workflow.firstEnd? = some (w.goal ids) := firstEnd?_timedNodes fresh
  have noState : ∀ n ∈ w.newEnds ids, n.isState = false ∧ Draft.isTimedState n = false ∧
      n.isEscalation = false := by
    intro n hn
    obtain ⟨-, rfl⟩ := mem_newEnds hn
    exact ⟨rfl, rfl, rfl⟩
  have timed : (w.timedNodes ids).values.filter Draft.isTimedState =
      w.states.map Node.withDeadline := by
    have none : (w.newEnds ids).filter Draft.isTimedState = [] := by
      rw [List.filter_eq_nil_iff]
      intro n hn
      simp [(noState n hn).2.1]
    rw [values_timedNodes fresh, List.filter_append, none, List.append_nil, List.filter_map]
    simp [states, Function.comp_def]
  have lacks : ({ w with nodes := w.timedNodes ids, transitions := w.transitions ++ links } :
      Workflow).lacksEscalation = w.needsEscalation := by
    have none : (w.newEnds ids).any Draft.isTimedState = false ∧
        (w.newEnds ids).any Node.isEscalation = false := by
      simp only [List.any_eq_false]
      exact ⟨fun n hn => by simp [(noState n hn).2.1], fun n hn => by simp [(noState n hn).2.2]⟩
    simp [lacksEscalation, needsEscalation, values_timedNodes fresh, none.1, none.2,
      Function.comp_def]
  rw [Draft.addEscalation_eq first]
  simp only [Draft.over, lacks, timed, List.length_map, IdSupply.assign_map,
    Draft.breach_withDeadline]
  rw [grownNodes, escalations, idsForBranches, newStates]
  cases w.needsEscalation with
  | false => simp
  | true => simp [Draft.escalationNode]

/-! ### Branches -/

/-- None of the transitions that are added before the branches is itself a branch. -/
theorem branchKey_eq_none {t : Transition} (h : t ∈ w.closings ids ++ w.escalations ids) :
    t.branchKey = none := by
  rcases List.mem_append.mp h with h | h
  · obtain ⟨e, -, i, -, rfl⟩ := IdSupply.mem_assign h
    rfl
  · rw [escalations] at h
    split at h
    case isTrue =>
      rcases List.mem_append.mp h with h | h
      · obtain ⟨n, -, i, -, rfl⟩ := IdSupply.mem_assign h
        rfl
      · rw [List.mem_singleton.mp h]
        rfl
    case isFalse => exact absurd h List.not_mem_nil

theorem missingBranch_over (h : ∀ t ∈ links, t.branchKey = none) (key : String) :
    (Draft.over w nodes links supply changes added?).workflow.missingBranch key =
      w.missingBranch key := by
  have none : (links.filter fun t => t.source == key).any
      (fun t => t.branchKey == some "yes") = false := by
    rw [List.any_eq_false]
    intro t ht
    simp [h t (List.mem_of_mem_filter ht)]
  have split : ((Draft.over w nodes links supply changes added?).workflow.outgoing key) =
      w.outgoing key ++ links.filter fun t => t.source == key := by
    simp [outgoing, Draft.over]
  rw [missingBranch, split, List.any_append, none, Bool.or_false]
  rfl

theorem entry_eq_of_key_eq {key : String} {m n : Node} (hm : (key, m) ∈ w.nodes.entries)
    (hn : (key, n) ∈ w.nodes.entries) : m = n :=
  Option.some.inj
    ((Table.get?_eq_some_iff.mpr hm).symm.trans (Table.get?_eq_some_iff.mpr hn))

theorem mem_entries_of_mem_values (keyed : w.KeyedById) {n : Node} (h : n ∈ w.nodes.values) :
    (n.id, n) ∈ w.nodes.entries := by
  obtain ⟨key, mem⟩ := Table.mem_values_iff.mp h
  have same : n.id = key := keyed (key, n) mem
  rwa [same]

/-- Tickets escalate from a state, an old one or the new one. -/
theorem isState_of_mem_escalations (keyed : w.KeyedById) (fresh : ids.FreshFor w)
    {t : Transition} (h : t ∈ w.escalations ids) {n : Node}
    (mem : (t.source, n) ∈ w.nodes.entries) : n.isState = true := by
  rw [escalations] at h
  split at h
  case isFalse => exact absurd h List.not_mem_nil
  case isTrue =>
    rcases List.mem_append.mp h with h | h
    · obtain ⟨s, hs, i, -, rfl⟩ := IdSupply.mem_assign h
      obtain ⟨hs, isState⟩ := List.mem_filter.mp hs
      have same : s = n := entry_eq_of_key_eq (mem_entries_of_mem_values keyed hs) mem
      rwa [same] at isState
    · rw [List.mem_singleton.mp h] at mem
      have absent : (w.idsForEscalation ids).next ∉ w.nodes.keys :=
        ((fresh.drop _).drop _).next_not_mem
      exact absurd (List.mem_map.mpr ⟨_, mem, rfl⟩) absent

/-- What leaves the key of a condition after the first repairs closes a dead end. -/
theorem outgoing_condition (keyed : w.KeyedById) (fresh : ids.FreshFor w) {key : String}
    {n : Node} (mem : (key, n) ∈ w.nodes.entries) (condition : n.type = .condition) :
    ((w.closings ids ++ w.escalations ids).filter fun t => t.source == key) =
      (w.closings ids).filter fun t => t.source == key := by
  have none : ((w.escalations ids).filter fun t => t.source == key) = [] := by
    rw [List.filter_eq_nil_iff]
    intro t ht
    rw [beq_iff_eq]
    rintro rfl
    have isState := isState_of_mem_escalations keyed fresh ht mem
    simp [Node.isState, condition] at isState
  rw [List.filter_append, none, List.append_nil]

/-- Of transitions that each leave the key of an entry, as many leave a key as there are
entries under it. -/
theorem length_assign_from {supply : IdSupply String} {edge : String × Node → String → Transition}
    (sources : ∀ e id, (edge e id).source = e.1) (items : List (String × Node)) (key : String) :
    ((supply.assign edge items).filter fun t => t.source == key).length =
      (items.filter fun e => e.1 == key).length := by
  have same : (supply.assign edge items).map Transition.source = items.map Prod.fst :=
    IdSupply.map_assign (f := Transition.source) (g := Prod.fst) sources _
  have counted := congrArg (fun l => (l.filter (· == key)).length) same
  simpa [List.filter_map, Function.comp_def] using counted

theorem length_closings_from (w : Workflow) (ids : IdSupply String) (key : String) :
    ((w.closings ids).filter fun t => t.source == key).length =
      (w.deadEnds.filter fun e => e.1 == key).length :=
  length_assign_from (fun _ _ => rfl) _ _

/-- A condition lacks a branch after the first repairs exactly when it lacked one before:
closing a dead end gives it one exit, which is still too few. -/
theorem lacksBranch_over (keyed : w.KeyedById) (fresh : ids.FreshFor w) {key : String} {n : Node}
    (mem : (key, n) ∈ w.nodes.entries) :
    (Draft.over w nodes (w.closings ids ++ w.escalations ids) supply changes
      added?).workflow.lacksBranch key n.withDeadline = w.lacksBranch key n := by
  by_cases condition : n.type = .condition
  case neg =>
    have other : (n.type == .condition) = false := beq_eq_false_iff_ne.mpr condition
    simp [lacksBranch, other]
  case pos =>
    have exits : (Draft.over w nodes (w.closings ids ++ w.escalations ids) supply changes
        added?).workflow.outgoing key =
          w.outgoing key ++ (w.closings ids).filter fun t => t.source == key := by
      rw [← outgoing_condition keyed fresh mem condition]
      simp [outgoing, Draft.over]
    have counted := length_closings_from w ids key
    simp only [lacksBranch, exits, List.length_append, counted, Node.type_withDeadline]
    cases h : w.outgoing key with
    | nil =>
        have atMost : (w.deadEnds.filter fun e => e.1 == key).length ≤ 1 :=
          Table.length_filter_key_le w.nodes (fun e => w.isDeadEnd e.1 e.2) key
        have few : (w.deadEnds.filter fun e => e.1 == key).length < 2 :=
          Nat.lt_succ_of_le atMost
        simp [few]
    | cons t rest =>
        have none : (w.deadEnds.filter fun e => e.1 == key) = [] := by
          rw [List.filter_eq_nil_iff]
          intro e he
          rw [beq_iff_eq]
          rintro rfl
          have dead := (List.mem_filter.mp he).2
          simp [isDeadEnd, h] at dead
        simp [none]

theorem completeBranches_over (keyed : w.KeyedById) (fresh : ids.FreshFor w) :
    (Draft.over w (w.grownNodes ids) (w.closings ids ++ w.escalations ids) (w.idsForBranches ids)
      changes added?).completeBranches =
      .over w (w.grownNodes ids) (w.closings ids ++ w.escalations ids ++ w.branches ids)
        (w.idsForLast ids) (changes ++ w.halfDecisions.map (Draft.branchNote w)) added? := by
  generalize e : Draft.over w (w.grownNodes ids) (w.closings ids ++ w.escalations ids)
    (w.idsForBranches ids) changes added? = d
  have first : d.workflow.firstEnd? = some (w.goal ids) := by
    rw [← e]
    exact firstEnd?_grownNodes fresh
  have missing : ∀ key, d.workflow.missingBranch key = w.missingBranch key := by
    rw [← e]
    exact missingBranch_over fun t ht => branchKey_eq_none ht
  have branch : Draft.branch d.workflow (w.goal ids).id = Draft.branch w (w.goal ids).id := by
    funext e id
    simp [Draft.branch, missing]
  have note : Draft.branchNote d.workflow = Draft.branchNote w := by
    funext e
    simp [Draft.branchNote, missing]
  have none : ((w.newNodes ids).map Node.entry).filter
      (fun e => d.workflow.lacksBranch e.1 e.2) = [] := by
    simp only [List.filter_eq_nil_iff, List.mem_map]
    rintro _ ⟨n, hn, rfl⟩
    have other : n.type ≠ .condition := by
      rcases List.mem_append.mp hn with hn | hn
      · obtain ⟨-, rfl⟩ := mem_newEnds hn
        exact fun h => NodeType.noConfusion h
      · obtain ⟨-, rfl⟩ := mem_newStates hn
        exact fun h => NodeType.noConfusion h
    simp [lacksBranch, Node.entry, other]
  have old : (w.nodes.entries.map fun e => (e.1, e.2.withDeadline)).filter
      (fun e => d.workflow.lacksBranch e.1 e.2) = w.halfDecisions := by
    have same : ∀ e ∈ w.nodes.entries,
        d.workflow.lacksBranch e.1 e.2.withDeadline = w.lacksBranch e.1 e.2 := by
      subst e
      exact fun e he => lacksBranch_over keyed fresh he
    rw [List.filter_map, halfDecisions]
    simp only [Function.comp_def]
    rw [List.filter_congr same]
    refine (List.map_congr_left fun e he => ?_).trans (List.map_id _)
    have lacks := (List.mem_filter.mp he).2
    have noState : e.2.isState = false := by
      simp only [lacksBranch, Bool.and_eq_true, beq_iff_eq] at lacks
      simp [Node.isState, lacks.1]
    rw [Node.withDeadline_of_not_isState noState]
    rfl
  have items : d.workflow.nodes.entries.filter (fun e => d.workflow.lacksBranch e.1 e.2) =
      w.halfDecisions := by
    have entries : d.workflow.nodes.entries = (w.grownNodes ids).entries := by rw [← e]; rfl
    rw [entries, entries_grownNodes fresh, List.filter_append, none, old, List.append_nil]
  rw [Draft.completeBranches_eq first, items, branch, note]
  subst e
  simp [Draft.over, Draft.extend, branches, idsForLast, List.map_eq_flatMap]

/-! ### The end node that was added -/

theorem preferred_withDeadline (entryId : String) (n best : Node) :
    Draft.preferred entryId n.withDeadline best.withDeadline =
      Draft.preferred entryId n best := by
  simp [Draft.preferred]

theorem bestSource?_withDeadline (entryId : String) (nodes : List Node) :
    Draft.bestSource? entryId (nodes.map Node.withDeadline) =
      (Draft.bestSource? entryId nodes).map Node.withDeadline :=
  Draft.bestSource?_map (preferred_withDeadline entryId) nodes

/-- A repair that is needed leads to the end node. -/
theorem exists_link_to_goal (ids : IdSupply String) (leads : w.leadsToEnd = true) :
    ∃ t ∈ w.closings ids ++ w.escalations ids ++ w.branches ids, t.target = (w.goal ids).id := by
  simp only [leadsToEnd, Bool.or_eq_true, Bool.not_eq_true', List.isEmpty_eq_false_iff_exists_mem]
    at leads
  rcases leads with (⟨e, he⟩ | needed) | ⟨e, he⟩
  · obtain ⟨i, -, mem⟩ := IdSupply.exists_mem_assign (s := w.idsForClosings ids)
      (m := Draft.closing (w.goal ids).id) he
    exact ⟨_, List.mem_append_left _ (List.mem_append_left _ mem), rfl⟩
  · refine ⟨Draft.resolution (w.idsForEscalation ids).next (w.goal ids).id
      ((w.idsForEscalation ids).advance.drop w.states.length).next,
      List.mem_append_left _ (List.mem_append_right _ ?_), rfl⟩
    simp [escalations, needed]
  · obtain ⟨i, -, mem⟩ := IdSupply.exists_mem_assign (s := w.idsForBranches ids)
      (m := Draft.branch w (w.goal ids).id) he
    exact ⟨_, List.mem_append_right _ mem, rfl⟩

theorem links_eq_nil (leads : w.leadsToEnd = false) :
    w.closings ids ++ w.escalations ids ++ w.branches ids = [] ∧ w.newStates ids = [] := by
  simp only [leadsToEnd, Bool.or_eq_false_iff, Bool.not_eq_false', List.isEmpty_iff] at leads
  obtain ⟨⟨dead, needed⟩, half⟩ := leads
  simp [closings, escalations, branches, newStates, dead, needed, half]

/-- The repairs so far lead to an end node that was added exactly when one of them was
needed. -/
theorem incoming_goal (fresh : ids.FreshFor w) (none : w.firstEnd? = none) :
    ((Draft.over w nodes (w.closings ids ++ w.escalations ids ++ w.branches ids) supply changes
      added?).workflow.incoming ids.next).isEmpty = !w.leadsToEnd := by
  have goal : (w.goal ids).id = ids.next := by simp [Workflow.goal, none, endNode]
  cases leads : w.leadsToEnd with
  | true =>
      obtain ⟨t, ht, same⟩ := exists_link_to_goal ids leads
      rw [goal] at same
      rw [Bool.not_true, List.isEmpty_eq_false_iff_exists_mem]
      refine ⟨t, List.mem_filter.mpr ⟨List.mem_append_right _ ht, ?_⟩⟩
      rw [same, beq_self_eq_true]
  | false =>
      rw [(links_eq_nil leads).1, Bool.not_false, List.isEmpty_iff, incoming,
        List.filter_eq_nil_iff]
      intro t ht same
      simp only [Draft.over, List.append_nil] at ht
      rw [beq_iff_eq] at same
      exact fresh.not_mentioned ids.drawn (Nat.le_refl _) (.inr (.inr ⟨t, ht, .inr same⟩))

theorem connectAddedEnd_over (keyed : w.KeyedById) (fresh : ids.FreshFor w) :
    (Draft.over w (w.grownNodes ids) (w.closings ids ++ w.escalations ids ++ w.branches ids)
      (w.idsForLast ids) changes ((w.newEnds ids).head?.map Node.id)).connectAddedEnd =
      .over w (w.grownNodes ids) (w.newLinks ids) (w.idsAfter ids)
        (changes ++ w.lastSource?.toList.map Draft.lastNote)
        ((w.newEnds ids).head?.map Node.id) := by
  cases none : w.firstEnd? with
  | some n =>
      simp [newEnds, none, Draft.connectAddedEnd, Draft.over, newLinks, lastLinks, lastSource?,
        idsAfter]
  | none =>
      have added : (w.newEnds ids).head?.map Node.id = some ids.next := by
        simp [newEnds, none, endNode]
      have goal : (w.goal ids).id = ids.next := by simp [Workflow.goal, none, endNode]
      have present : (w.grownNodes ids).contains ids.next = true := by
        rw [Table.contains_iff, Table.keys_eq_map_entries, entries_grownNodes fresh]
        simp [newNodes, newEnds, none, Node.entry, endNode]
      rw [added, Draft.connectAddedEnd_eq rfl present, incoming_goal fresh none]
      cases leads : w.leadsToEnd with
      | true =>
          simp [lastSource?, leads, newLinks, lastLinks, idsAfter]
      | false =>
          have candidates : (w.grownNodes ids).values.filter
              (fun n => n.id != ids.next && !n.isEnd) = w.nodes.values.map Node.withDeadline := by
            have dropped : (w.newNodes ids).filter
                (fun n => n.id != ids.next && !n.isEnd) = [] := by
              rw [newNodes, (links_eq_nil leads).2, List.append_nil, List.filter_eq_nil_iff]
              intro n hn
              simp [isEnd_of_mem_newEnds hn]
            rw [values_grownNodes fresh, List.filter_append, dropped, List.append_nil,
              List.filter_eq_self]
            simp only [List.mem_map]
            rintro _ ⟨n, hn, rfl⟩
            have noEnd := List.find?_eq_none.mp none n hn
            have other : n.id ≠ ids.next := by
              obtain ⟨key, mem⟩ := Table.mem_values_iff.mp hn
              rw [keyed (key, n) mem]
              rintro rfl
              exact fresh.next_not_mem (List.mem_map.mpr ⟨_, mem, rfl⟩)
            simp [other, noEnd]
          have source : Draft.bestSource? w.entryId ((w.grownNodes ids).values.filter
              (fun n => n.id != ids.next && !n.isEnd)) =
                w.lastSource?.map Node.withDeadline := by
            rw [candidates, bestSource?_withDeadline]
            simp [lastSource?, none, leads]
          change (if (!false) = true then Draft.extend _ _ _ (Draft.bestSource? w.entryId
            ((w.grownNodes ids).values.filter fun n => n.id != ids.next && !n.isEnd)).toList
            else _) = _
          rw [source, ← goal]
          simp [Draft.extend, Draft.over, newLinks, lastLinks, idsAfter, Option.toList_map,
            IdSupply.assign_map, List.flatMap_map, ← List.map_eq_flatMap]

/-- A repair as a whole: the workflow with the new nodes, the deadlines and the new
transitions. -/
theorem repair_start (keyed : w.KeyedById) (fresh : ids.FreshFor w) :
    (Draft.start w ids).repair =
      .over w (w.grownNodes ids) (w.newLinks ids) (w.idsAfter ids) (w.repairChanges ids)
        ((w.newEnds ids).head?.map Node.id) := by
  rw [Draft.repair, addMissingEnd_start, connectDeadEnds_over fresh, addDeadlines_over fresh,
    addEscalation_over fresh, completeBranches_over keyed fresh, connectAddedEnd_over keyed fresh]
  rfl

theorem repair_eq (keyed : w.KeyedById) (fresh : ids.FreshFor w) (now : Option Timestamp) :
    w.repair ids now =
      ⟨{ w with
          nodes := w.grownNodes ids
          transitions := w.transitions ++ w.newLinks ids
          updatedAt := now
          version := w.version.addInt 1 }, w.repairChanges ids, w.idsAfter ids⟩ := by
  rw [repair, repair_start keyed fresh]
  rfl

end Workflow

end TicketFlow
