import TicketFlow.Proofs.Repair.Growth

/-!
# When a repaired workflow is valid

A repair connects whatever cannot be left and whatever it adds. It does not touch the
entry, the references that were there or an end node that nothing leads to, unless
that is the first one and some repair leads there. So a repaired workflow is valid
exactly when these were in order before.
-/

namespace TicketFlow

/-- The kinds of changes that lead to the end node. -/
def ChangeKind.leading : List ChangeKind :=
  [.connectDeadEnd, .addEscalation, .fixBranch]

namespace Workflow

variable {w : Workflow} {ids : IdSupply String}

/-! ## New nodes and new transitions -/

theorem id_of_mem_newNodes {n : Node} (h : n ∈ w.newNodes ids) :
    ∃ i, ids.drawn ≤ i ∧ n.id = ids.ids i := by
  rcases List.mem_append.mp h with h | h
  · obtain ⟨-, rfl⟩ := mem_newEnds h
    exact ⟨ids.drawn, Nat.le_refl _, rfl⟩
  · obtain ⟨-, rfl⟩ := mem_newStates h
    refine ⟨(w.idsForEscalation ids).drawn, ?_, rfl⟩
    simp only [idsForEscalation, idsForClosings, IdSupply.drop]
    omega

/-- A new node is an end, or the state that takes up escalated tickets. -/
theorem data_of_mem_newNodes {n : Node} (h : n ∈ w.newNodes ids) :
    n.data = .terminal ⟨"Closed"⟩ ∨
      n.data = .state ⟨"Escalated", some "bg-red-500", none, [], []⟩ := by
  rcases List.mem_append.mp h with h | h
  · obtain ⟨-, rfl⟩ := mem_newEnds h
    exact .inl rfl
  · obtain ⟨-, rfl⟩ := mem_newStates h
    exact .inr rfl

theorem keys_grownNodes (fresh : ids.FreshFor w) :
    (w.grownNodes ids).keys = w.nodes.keys ++ (w.newNodes ids).map Node.id := by
  rw [Table.keys_eq_map_entries, entries_grownNodes fresh]
  simp [Table.keys, Node.entry, Function.comp_def]

theorem mem_keys_grownNodes (fresh : ids.FreshFor w) {key : String} (h : key ∈ w.nodes.keys) :
    key ∈ (w.grownNodes ids).keys := by
  rw [keys_grownNodes fresh]
  exact List.mem_append_left _ h

/-- No name of a new node stands in the workflow before. -/
theorem mem_keys_of_mentions (fresh : ids.FreshFor w) {key : String} (mentioned : w.Mentions key)
    (h : key ∈ (w.grownNodes ids).keys) : key ∈ w.nodes.keys := by
  rw [keys_grownNodes fresh, List.mem_append] at h
  rcases h with h | h
  · exact h
  · obtain ⟨n, hn, rfl⟩ := List.mem_map.mp h
    obtain ⟨i, hi, same⟩ := id_of_mem_newNodes hn
    exact absurd (same ▸ mentioned) (fresh.not_mentioned i hi)

/-- The end node that the repairs lead to was there or is new. -/
theorem goal_cases (ids : IdSupply String) (keyed : w.KeyedById) :
    (∃ n, w.firstEnd? = some n ∧ w.goal ids = n ∧ (n.id, n) ∈ w.nodes.entries) ∨
      w.firstEnd? = none ∧ w.goal ids ∈ w.newNodes ids := by
  cases first : w.firstEnd? with
  | some n =>
      refine .inl ⟨n, rfl, by simp [goal, first], ?_⟩
      exact mem_entries_of_mem_values keyed (List.mem_of_find?_eq_some first)
  | none => exact .inr ⟨rfl, by simp [goal, newNodes, newEnds, first]⟩

theorem goal_mem_keys (keyed : w.KeyedById) (fresh : ids.FreshFor w) :
    (w.goal ids).id ∈ (w.grownNodes ids).keys := by
  rw [keys_grownNodes fresh, List.mem_append]
  rcases goal_cases ids keyed with ⟨n, -, same, mem⟩ | ⟨-, mem⟩
  · rw [same]
    exact .inl (List.mem_map.mpr ⟨_, mem, rfl⟩)
  · exact .inr (List.mem_map.mpr ⟨_, mem, rfl⟩)

theorem mem_of_bestSource? {entryId : String} {nodes : List Node} {n : Node}
    (h : Draft.bestSource? entryId nodes = some n) : n ∈ nodes := by
  cases nodes with
  | nil => cases h
  | cons first rest =>
      rw [Draft.bestSource?, Option.some.injEq] at h
      subst h
      induction rest generalizing first with
      | nil => exact List.mem_singleton.mpr rfl
      | cons m rest ih =>
          rw [List.foldl_cons]
          split
          · exact List.mem_cons_of_mem _ (ih m)
          · rcases List.mem_cons.mp (ih first) with same | mem
            · exact List.mem_cons.mpr (.inl same)
            · exact List.mem_cons_of_mem _ (List.mem_cons_of_mem _ mem)

theorem lastSource?_eq_some {n : Node} (h : w.lastSource? = some n) :
    w.firstEnd? = none ∧ n ∈ w.nodes.values := by
  rw [lastSource?] at h
  split at h
  case isTrue => cases h
  case isFalse needed =>
    simp only [Bool.or_eq_true, not_or, Bool.not_eq_true, Option.isSome_eq_false_iff,
      Option.isNone_iff_eq_none] at needed
    exact ⟨needed.1, mem_of_bestSource? h⟩

/-- A new transition leaves a node that was there and is no end, or a new state, and
arrives at the end node or at a new state. It only moves tickets. -/
theorem newLinks_cases (keyed : w.KeyedById) {t : Transition} (h : t ∈ w.newLinks ids) :
    ((∃ n, (t.source, n) ∈ w.nodes.entries ∧ n.isEnd = false) ∨
        ∃ n ∈ w.newStates ids, t.source = n.id) ∧
      (t.target = (w.goal ids).id ∨ ∃ n ∈ w.newStates ids, t.target = n.id) ∧
      t.conditions = [] ∧ t.actions = [] := by
  simp only [newLinks, List.mem_append, or_assoc] at h
  rcases h with h | h | h | h
  · obtain ⟨e, he, i, -, rfl⟩ := IdSupply.mem_assign h
    obtain ⟨mem, dead⟩ := List.mem_filter.mp he
    rw [isDeadEnd, Bool.and_eq_true, Bool.not_eq_true'] at dead
    exact ⟨.inl ⟨e.2, mem, dead.1⟩, .inl rfl, rfl, rfl⟩
  · rw [escalations] at h
    split at h
    case isFalse => exact absurd h List.not_mem_nil
    case isTrue needed =>
      have added : Draft.escalationNode (w.idsForEscalation ids).next (w.goal ids) ∈
          w.newStates ids := by simp [newStates, needed]
      rcases List.mem_append.mp h with h | h
      · obtain ⟨s, hs, i, -, rfl⟩ := IdSupply.mem_assign h
        obtain ⟨mem, isState⟩ := List.mem_filter.mp hs
        refine ⟨.inl ⟨s, mem_entries_of_mem_values keyed mem, ?_⟩, .inr ⟨_, added, rfl⟩, rfl, rfl⟩
        cases isEnd : s.isEnd with
        | false => rfl
        | true => exact absurd isState (by simp [Node.not_isState_of_isEnd isEnd])
      · rw [List.mem_singleton.mp h]
        exact ⟨.inr ⟨_, added, rfl⟩, .inl rfl, rfl, rfl⟩
  · obtain ⟨e, he, i, -, rfl⟩ := IdSupply.mem_assign h
    obtain ⟨mem, lacks⟩ := List.mem_filter.mp he
    simp only [lacksBranch, Bool.and_eq_true, beq_iff_eq] at lacks
    exact ⟨.inl ⟨e.2, mem, by simp [Node.isEnd, lacks.1]⟩, .inl rfl, rfl, rfl⟩
  · obtain ⟨n, hn, i, -, rfl⟩ := IdSupply.mem_assign h
    obtain ⟨none, mem⟩ := lastSource?_eq_some (Option.mem_toList.mp hn)
    refine ⟨.inl ⟨n, mem_entries_of_mem_values keyed mem, ?_⟩, .inl rfl, rfl, rfl⟩
    simpa using List.find?_eq_none.mp none n mem

/-- Every dead end is connected to the end node. -/
theorem exists_closing (ids : IdSupply String) {e : String × Node} (h : e ∈ w.deadEnds) :
    ∃ t ∈ w.newLinks ids, t.source = e.1 := by
  obtain ⟨i, -, closing⟩ := IdSupply.exists_mem_assign (s := w.idsForClosings ids)
    (m := Draft.closing (w.goal ids).id) h
  have new : _ ∈ w.newLinks ids :=
    List.mem_append_left _ (List.mem_append_left _ (List.mem_append_left _ closing))
  exact ⟨_, new, rfl⟩

theorem exists_lastLink (ids : IdSupply String) {n : Node} (h : w.lastSource? = some n) :
    ∃ t ∈ w.newLinks ids, t.source = n.id ∧ t.target = (w.goal ids).id := by
  obtain ⟨i, -, last⟩ := IdSupply.exists_mem_assign (s := w.idsForLast ids)
    (m := Draft.lastLink (w.goal ids).id) (Option.mem_toList.mpr h)
  exact ⟨_, List.mem_append_right _ last, rfl, rfl⟩

/-- Something leaves every node of a repaired workflow that is no end. -/
theorem exists_exit (fresh : ids.FreshFor w) {key : String} {n : Node}
    (mem : (key, n) ∈ (w.grownNodes ids).entries) (isEnd : n.isEnd = false) :
    ∃ t ∈ w.transitions ++ w.newLinks ids, t.source = key := by
  rw [entries_grownNodes fresh, List.mem_append] at mem
  rcases mem with mem | mem
  · obtain ⟨⟨key, n⟩, old, same⟩ := List.mem_map.mp mem
    cases same
    rw [Node.isEnd_withDeadline] at isEnd
    cases exits : w.outgoing key with
    | cons t rest =>
        have ht : t ∈ w.outgoing key := by simp [exits]
        obtain ⟨ht, source⟩ := List.mem_filter.mp ht
        exact ⟨t, List.mem_append_left _ ht, by simpa using source⟩
    | nil =>
        have dead : (key, n) ∈ w.deadEnds :=
          List.mem_filter.mpr ⟨old, by simp [isDeadEnd, isEnd, exits]⟩
        obtain ⟨t, ht, source⟩ := exists_closing ids dead
        exact ⟨t, List.mem_append_right _ ht, source⟩
  · obtain ⟨n, hn, same⟩ := List.mem_map.mp mem
    cases same
    rcases List.mem_append.mp hn with hn | hn
    · rw [isEnd_of_mem_newEnds hn] at isEnd
      cases isEnd
    · obtain ⟨needed, rfl⟩ := mem_newStates hn
      refine ⟨Draft.resolution (w.idsForEscalation ids).next (w.goal ids).id
        ((w.idsForEscalation ids).advance.drop w.states.length).next, ?_, rfl⟩
      simp [newLinks, escalations, needed]

/-! ## Changes -/

/-- A repair that leads to the end node notes it. -/
theorem leadsToEnd_iff :
    w.leadsToEnd = true ↔ ∃ c ∈ w.repairChanges ids, c.kind ∈ ChangeKind.leading := by
  simp only [leadsToEnd, Bool.or_eq_true, Bool.not_eq_true', List.isEmpty_eq_false_iff_exists_mem]
  simp [repairChanges, or_and_right, exists_or, or_assoc, ChangeKind.leading, Draft.closingNote,
    Draft.deadlineChange, Draft.escalationNote, Draft.branchNote, Draft.lastNote, newStates]

/-! ## Validity -/

/-- What is in order before a repair that leaves a valid workflow. -/
def Repairable (w : Workflow) (changes : List Change) : Prop :=
  w.EntryResolves ∧ w.ReferencesResolve ∧ ∀ e ∈ w.nodes.entries, e.2.isEnd = true →
    w.Referenced e.1 ∨ w.firstEnd? = some e.2 ∧ ∃ c ∈ changes, c.kind ∈ ChangeKind.leading

variable {now : Option Timestamp}

/-- An end node that is connected after a repair was connected before, or it is the first
one and some repair leads there. -/
theorem reached_of_grown (keyed : w.KeyedById) (fresh : ids.FreshFor w) {key : String} {n : Node}
    (mem : (key, n) ∈ w.nodes.entries) (isEnd : n.isEnd = true)
    (connected : w.entryId = key ∨
      ∃ t ∈ w.transitions ++ w.newLinks ids, t.source = key ∨ t.target = key) :
    w.Referenced key ∨ w.firstEnd? = some n ∧ w.leadsToEnd = true := by
  have old : key ∈ w.nodes.keys := List.mem_map.mpr ⟨_, mem, rfl⟩
  have notNew : ∀ m ∈ w.newNodes ids, m.id ≠ key := by
    intro m hm same
    obtain ⟨i, hi, id⟩ := id_of_mem_newNodes hm
    exact fresh.not_mentioned i hi (.inl (id ▸ same ▸ old))
  rcases connected with entry | ⟨t, ht, touches⟩
  · exact .inl (.inl entry)
  rcases List.mem_append.mp ht with ht | ht
  · exact .inl (.inr ⟨t, ht, touches⟩)
  obtain ⟨source, target, -⟩ := newLinks_cases keyed ht
  rcases touches with rfl | rfl
  · -- A new transition leaves no end node.
    rcases source with ⟨m, hm, noEnd⟩ | ⟨m, hm, same⟩
    · rw [entry_eq_of_key_eq hm mem, isEnd] at noEnd
      cases noEnd
    · exact absurd same.symm (notNew m (List.mem_append_right _ hm))
  · rcases target with same | ⟨m, hm, same⟩
    · right
      rcases goal_cases ids keyed with ⟨m, first, goal, hm⟩ | ⟨-, hm⟩
      · rw [goal] at same
        rw [same] at mem
        refine ⟨by rw [first, entry_eq_of_key_eq hm mem], ?_⟩
        cases leads : w.leadsToEnd with
        | true => rfl
        | false =>
            have none : w.newLinks ids = [] := by
              rw [newLinks, (links_eq_nil leads).1]
              simp [lastLinks, lastSource?, first]
            rw [none] at ht
            exact absurd ht List.not_mem_nil
      · exact absurd same.symm (notNew _ hm)
    · exact absurd same.symm (notNew m (List.mem_append_right _ hm))

theorem repairable_of_isValid (keyed : w.KeyedById) (fresh : ids.FreshFor w)
    (valid : (w.repair ids now).workflow.isValid = true) :
    w.Repairable (w.repair ids now).changes := by
  rw [repair_eq keyed fresh] at valid ⊢
  obtain ⟨⟨entrySet, entryMem⟩, references, referenced, -⟩ := isValid_eq_true_iff.mp valid
  refine ⟨⟨entrySet, mem_keys_of_mentions fresh (.inr (.inl rfl)) entryMem⟩, ?_, ?_⟩
  · intro t ht
    obtain ⟨source, target⟩ := references t (List.mem_append_left _ ht)
    exact ⟨mem_keys_of_mentions fresh (.inr (.inr ⟨t, ht, .inl rfl⟩)) source,
      mem_keys_of_mentions fresh (.inr (.inr ⟨t, ht, .inr rfl⟩)) target⟩
  · rintro ⟨key, n⟩ mem isEnd
    have old : key ∈ w.nodes.keys := List.mem_map.mpr ⟨_, mem, rfl⟩
    have reached := reached_of_grown keyed fresh mem isEnd
      (referenced key (mem_keys_grownNodes fresh old))
    exact reached.imp_right (.imp_right leadsToEnd_iff.mp)

theorem exists_bestSource? (entryId : String) {nodes : List Node} (h : nodes ≠ []) :
    ∃ n, Draft.bestSource? entryId nodes = some n := by
  cases nodes with
  | nil => exact absurd rfl h
  | cons first rest => exact ⟨_, rfl⟩

/-- Something leads to every new node, unless there was no node at all. -/
theorem exists_arrival (nodes : w.nodes.values ≠ []) {n : Node} (h : n ∈ w.newNodes ids) :
    ∃ t ∈ w.newLinks ids, t.target = n.id := by
  rcases List.mem_append.mp h with h | h
  · obtain ⟨none, rfl⟩ := mem_newEnds h
    have goal : w.goal ids = w.endNode ids.next := by simp [Workflow.goal, none]
    cases leads : w.leadsToEnd with
    | true =>
        obtain ⟨t, ht, target⟩ := exists_link_to_goal ids leads
        exact ⟨t, List.mem_append_left _ ht, by rw [target, goal]⟩
    | false =>
        obtain ⟨source, best⟩ := exists_bestSource? w.entryId nodes
        have last : w.lastSource? = some source := by
          simp [lastSource?, none, leads, best]
        obtain ⟨t, ht, -, target⟩ := exists_lastLink ids last
        exact ⟨t, ht, by rw [target, goal]⟩
  · obtain ⟨needed, rfl⟩ := mem_newStates h
    obtain ⟨s, hs, isState⟩ := List.any_eq_true.mp (Bool.and_eq_true_iff.mp needed).1
    obtain ⟨i, -, breach⟩ := IdSupply.exists_mem_assign (s := (w.idsForEscalation ids).advance)
      (m := Draft.breach (w.idsForEscalation ids).next) (List.mem_filter.mpr ⟨hs, isState⟩)
    have escalates : Draft.breach (w.idsForEscalation ids).next s
        ((w.idsForEscalation ids).advance.ids i) ∈ w.escalations ids := by
      rw [escalations, if_pos needed]
      exact List.mem_append_left _ breach
    have new : _ ∈ w.newLinks ids :=
      List.mem_append_left _ (List.mem_append_left _ (List.mem_append_right _ escalates))
    exact ⟨_, new, rfl⟩

theorem newLinks_resolve (keyed : w.KeyedById) (fresh : ids.FreshFor w) {t : Transition}
    (h : t ∈ w.newLinks ids) :
    t.source ∈ (w.grownNodes ids).keys ∧ t.target ∈ (w.grownNodes ids).keys := by
  have added : ∀ n ∈ w.newStates ids, n.id ∈ (w.grownNodes ids).keys := by
    intro n hn
    rw [keys_grownNodes fresh]
    exact List.mem_append_right _ (List.mem_map_of_mem (List.mem_append_right _ hn))
  obtain ⟨source, target, -⟩ := newLinks_cases keyed h
  constructor
  · rcases source with ⟨n, mem, -⟩ | ⟨n, hn, same⟩
    · exact mem_keys_grownNodes fresh (List.mem_map.mpr ⟨_, mem, rfl⟩)
    · exact same ▸ added n hn
  · rcases target with same | ⟨n, hn, same⟩
    · exact same ▸ goal_mem_keys keyed fresh
    · exact same ▸ added n hn

/-- A node that was there is reached by a repair if it can be left or if it is the end
node that some repair leads to. -/
theorem referenced_oldNodes (fresh : ids.FreshFor w) {key : String} {n : Node}
    (keyed : w.KeyedById) (mem : (key, n) ∈ w.nodes.entries)
    (reached : n.isEnd = true → w.Referenced key ∨ w.firstEnd? = some n ∧ w.leadsToEnd = true) :
    w.entryId = key ∨
      ∃ t ∈ w.transitions ++ w.newLinks ids, t.source = key ∨ t.target = key := by
  cases isEnd : n.isEnd with
  | false =>
      have grown : (key, n.withDeadline) ∈ (w.grownNodes ids).entries := by
        rw [entries_grownNodes fresh]
        exact List.mem_append_left _ (List.mem_map.mpr ⟨_, mem, rfl⟩)
      obtain ⟨t, ht, source⟩ := exists_exit fresh grown (by rwa [Node.isEnd_withDeadline])
      exact .inr ⟨t, ht, .inl source⟩
  | true =>
      rcases reached isEnd with (entry | ⟨t, ht, touches⟩) | ⟨first, leads⟩
      · exact .inl entry
      · exact .inr ⟨t, List.mem_append_left _ ht, touches⟩
      · obtain ⟨t, ht, target⟩ := exists_link_to_goal ids leads
        have goal : (w.goal ids).id = key := by
          rw [Workflow.goal, first]
          exact keyed (key, n) mem
        exact .inr ⟨t, List.mem_append_right _ (List.mem_append_left _ ht), .inr (goal ▸ target)⟩

theorem isValid_of_repairable (keyed : w.KeyedById) (fresh : ids.FreshFor w)
    (repairable : w.Repairable (w.repair ids now).changes) :
    (w.repair ids now).workflow.isValid = true := by
  rw [repair_eq keyed fresh] at repairable ⊢
  obtain ⟨⟨entrySet, entryMem⟩, references, ends⟩ := repairable
  have values : w.nodes.values ≠ [] := by
    intro none
    rw [Table.values_eq_map_entries, List.map_eq_nil_iff] at none
    rw [Table.keys_eq_map_entries, none] at entryMem
    exact absurd entryMem List.not_mem_nil
  refine isValid_eq_true_iff.mpr ⟨⟨entrySet, mem_keys_grownNodes fresh entryMem⟩, ?_, ?_, ?_⟩
  · -- References resolve.
    intro t ht
    rcases List.mem_append.mp ht with ht | ht
    · obtain ⟨source, target⟩ := references t ht
      exact ⟨mem_keys_grownNodes fresh source, mem_keys_grownNodes fresh target⟩
    · exact newLinks_resolve keyed fresh ht
  · -- No node is an orphan.
    intro key mem
    rw [keys_grownNodes fresh, List.mem_append] at mem
    rcases mem with mem | mem
    · obtain ⟨⟨key, n⟩, old, rfl⟩ := List.mem_map.mp mem
      refine referenced_oldNodes fresh keyed old fun isEnd => ?_
      exact (ends (key, n) old isEnd).imp_right (.imp_right leadsToEnd_iff.mpr)
    · obtain ⟨n, hn, rfl⟩ := List.mem_map.mp mem
      obtain ⟨t, ht, target⟩ := exists_arrival values hn
      exact .inr ⟨t, List.mem_append_right _ ht, .inr target⟩
  · -- Tickets can leave a trigger at the entry.
    intro isTrigger none
    obtain ⟨d, trigger⟩ := Option.isSome_iff_exists.mp isTrigger
    obtain ⟨n, entry, data⟩ := Option.bind_eq_some_iff.mp trigger
    have mem : (w.entryId, n) ∈ (w.grownNodes ids).entries := by
      unfold entry? at entry
      rw [if_neg entrySet] at entry
      exact Table.get?_eq_some_iff.mp entry
    have isEnd : n.isEnd = false := by
      cases h : n.data <;> simp_all [NodeData.trigger?, Node.isEnd, Node.type, NodeData.type]
    obtain ⟨t, ht, source⟩ := exists_exit fresh mem isEnd
    have exits : t ∈ ([] : List Transition) := none ▸ List.mem_filter.mpr ⟨ht, by simp [source]⟩
    exact absurd exits List.not_mem_nil

/-- With nodes under their own ids and with fresh ids, a repaired workflow is valid exactly
when its entry and its references resolved before and every end node was connected or
is the first one and some repair leads there. Without an end node nothing is asked of
the end nodes. -/
theorem isValid_repair_iff (keyed : w.KeyedById) (fresh : ids.FreshFor w)
    (now : Option Timestamp) :
    ((w.repair ids now).workflow.isValid = true ↔
      (w.entryId ≠ "" ∧ w.entryId ∈ w.nodes.keys) ∧
      (∀ t ∈ w.transitions, t.source ∈ w.nodes.keys ∧ t.target ∈ w.nodes.keys) ∧
      ∀ e ∈ w.nodes.entries, e.2.isEnd = true →
        w.entryId = e.1 ∨ (∃ t ∈ w.transitions, t.source = e.1 ∨ t.target = e.1) ∨
          w.firstEnd? = some e.2 ∧ ∃ c ∈ (w.repair ids now).changes,
            c.kind ∈ [ChangeKind.connectDeadEnd, .addEscalation, .fixBranch]) ∧
    (w.endNodes = [] → w.entryId ≠ "" → w.entryId ∈ w.nodes.keys →
      (∀ t ∈ w.transitions, t.source ∈ w.nodes.keys ∧ t.target ∈ w.nodes.keys) →
        (w.repair ids now).workflow.isValid = true) := by
  have valid : (w.repair ids now).workflow.isValid = true ↔
      w.Repairable (w.repair ids now).changes :=
    ⟨repairable_of_isValid keyed fresh, isValid_of_repairable keyed fresh⟩
  constructor
  · simp only [valid, Repairable, EntryResolves, ReferencesResolve, Referenced, or_assoc]
    rfl
  · intro none entrySet entryMem references
    refine valid.mpr ⟨⟨entrySet, entryMem⟩, references, fun e mem isEnd => ?_⟩
    have isEndNode : e.2 ∈ w.endNodes :=
      List.mem_filter.mpr ⟨Table.mem_values_iff.mpr ⟨e.1, mem⟩, isEnd⟩
    rw [none] at isEndNode
    exact absurd isEndNode List.not_mem_nil

/-- A loop between a state without a deadline and a decision with one branch, beside an end
node that nothing leads to. -/
def unfinished : Workflow where
  id := "wf"
  name := "Unfinished"
  nodes := ⟨[("in", ⟨"in", .trigger ⟨"create", []⟩, ⟨0, 0⟩⟩),
    ("new", ⟨"new", .state ⟨"New", none, none, [], []⟩, ⟨0, 140⟩⟩),
    ("ask", ⟨"ask", .condition ⟨"all", [⟨"status", "is", .string "open"⟩]⟩, ⟨0, 280⟩⟩),
    ("end", ⟨"end", .terminal ⟨"Done"⟩, ⟨300, 280⟩⟩)], by decide⟩
  transitions := [.plain "t1" "in" "new" none, .plain "t2" "new" "ask" none,
    { Transition.plain "t3" "ask" "new" none with branchKey := some "yes" }]
  entryId := "in"
  enabled := true
  version := 1
  description := none
  createdAt := none
  updatedAt := none

theorem unfinished_keyedById : unfinished.KeyedById := by
  simp [KeyedById, unfinished]

theorem unfinished_freshFor :
    (⟨stemmedId "new", 0⟩ : IdSupply String).FreshFor unfinished :=
  IdSupply.freshFor_of_forall (by decide)

/-- The end node is an orphan before the repair. The repair notes the branch that it adds
and leaves a valid workflow. -/
theorem unfinished_isValid_repair :
    unfinished.KeyedById ∧ (⟨stemmedId "new", 0⟩ : IdSupply String).FreshFor unfinished ∧
      unfinished.isValid = false ∧
      (unfinished.repair ⟨stemmedId "new", 0⟩ none).workflow.isValid = true := by
  have leads : unfinished.leadsToEnd = true := by
    have half : unfinished.halfDecisions.isEmpty = false := by decide
    rw [leadsToEnd, half, Bool.not_false, Bool.or_true]
  refine ⟨unfinished_keyedById, unfinished_freshFor, by decide, ?_⟩
  refine (isValid_repair_iff unfinished_keyedById unfinished_freshFor none).1.mpr
    ⟨⟨by decide, by decide⟩, by decide, fun e mem isEnd => .inr (.inr ⟨?_, ?_⟩)⟩
  · have only : ∀ e ∈ unfinished.nodes.entries, e.2.isEnd = true →
        unfinished.firstEnd? = some e.2 := by
      simp [unfinished, firstEnd?, Table.values, Node.isEnd, Node.type, NodeData.type]
    exact only e mem isEnd
  · rw [repair_eq unfinished_keyedById unfinished_freshFor]
    exact leadsToEnd_iff.mp leads

end Workflow

end TicketFlow
