import TicketFlow.Proofs.Repair.Origin
import TicketFlow.Proofs.Rule.Failure

/-!
# The rules of a repaired workflow

A repair neither loses nor alters a rule, and what it adds is counted by its transitions
and by the changes that it notes. Only a delay may be in the way. A dead end that waits
too long had no rule that could fail before it was connected.
-/

namespace TicketFlow

open Fallible

/-- The kinds of changes that connect a node, of whatever type, to the end node. -/
def ChangeKind.connecting : List ChangeKind :=
  [.connectDeadEnd, .connectEndNode]

namespace StateData

variable {d : StateData}

/-- The suggested deadlines can be told in hours. -/
theorem not_isEndless_withSuggestedDeadline : ¬d.withSuggestedDeadline.IsEndless := by
  intro ⟨minutes, same, positive, error⟩
  cases same
  have hours : ∀ n ∈ [60, 120, 240, 480],
      (Number.int (n : Nat)).minutesToHours ≠ .error .hoursOutOfRange := by
    decide
  exact hours _ (suggestedMinutes_mem d.label) error

theorem isEndless_timed : d.timed.IsEndless ↔ d.IsEndless := by
  cases h : d.hasDeadline with
  | true => rw [timed_of_hasDeadline h]
  | false =>
      have without : ¬d.IsEndless := by
        intro ⟨minutes, same, positive, _⟩
        simp [hasDeadline, same, positive] at h
      rw [timed_of_not_hasDeadline h]
      exact iff_of_false not_isEndless_withSuggestedDeadline without

end StateData

theorem Node.delay_withDeadline {n : Node} {d : DelayData} :
    n.withDeadline.data = .delay d ↔ n.data = .delay d := by
  have same := Node.apply_withDeadline (fun data => data = .delay d) (fun _ => by simp) n
  exact iff_of_eq same

namespace Workflow

variable {w : Workflow} {ids : IdSupply String} {now : Option Timestamp}
variable {rules : List Rule} {t : Transition} {key : String}

/-! ## Delays that are connected -/

/-- What is connected: the dead ends, and the node that an added end node hangs on. -/
theorem mem_connecting {c : Change} :
    (c ∈ w.repairChanges ids ∧ c.kind ∈ ChangeKind.connecting) ↔
      (∃ e ∈ w.deadEnds, c = Draft.closingNote e) ∨
        ∃ n, w.lastSource? = some n ∧ c = Draft.lastNote n := by
  simp only [repairChanges, List.mem_append, List.mem_map, List.mem_filterMap, Option.mem_toList,
    Option.map_eq_some_iff]
  constructor
  · rintro ⟨((((⟨n, -, rfl⟩ | closed) | ⟨e, -, d, -, rfl⟩) | ⟨n, -, rfl⟩) | ⟨e, -, rfl⟩) |
      last, kind⟩
    · simp [ChangeKind.connecting] at kind
    · obtain ⟨e, he, rfl⟩ := closed
      exact .inl ⟨e, he, rfl⟩
    · simp [ChangeKind.connecting, Draft.deadlineChange] at kind
    · simp [ChangeKind.connecting, Draft.escalationNote] at kind
    · simp [ChangeKind.connecting, Draft.branchNote] at kind
    · obtain ⟨n, hn, rfl⟩ := last
      exact .inr ⟨n, hn, rfl⟩
  · rintro (⟨e, he, rfl⟩ | ⟨n, hn, rfl⟩)
    · exact ⟨.inl (.inl (.inl (.inl (.inr ⟨e, he, rfl⟩)))), List.mem_cons_self⟩
    · exact ⟨.inr ⟨n, hn, rfl⟩, List.mem_cons_of_mem _ List.mem_cons_self⟩

/-- A transition that a repair adds leaves a delay only if a change says that the delay was
connected. -/
theorem exists_change_of_delay (keyed : w.KeyedById) (fresh : ids.FreshFor w)
    (h : t ∈ w.newLinks ids) {n : Node} (mem : (t.source, n) ∈ w.nodes.entries) {d : DelayData}
    (delay : n.data = .delay d) :
    ∃ c ∈ w.repairChanges ids, c.kind ∈ ChangeKind.connecting ∧ c.nodeId = t.source := by
  have type : n.type = .delay := by rw [Node.type, delay]; rfl
  have noted : ∀ c : Change, ((∃ e ∈ w.deadEnds, c = Draft.closingNote e) ∨
      ∃ n, w.lastSource? = some n ∧ c = Draft.lastNote n) → c.nodeId = t.source →
      ∃ c ∈ w.repairChanges ids, c.kind ∈ ChangeKind.connecting ∧ c.nodeId = t.source := by
    intro c hc source
    obtain ⟨mem, kind⟩ := mem_connecting.mpr hc
    exact ⟨c, mem, kind, source⟩
  simp only [newLinks, List.mem_append, or_assoc] at h
  rcases h with h | h | h | h
  · obtain ⟨e, he, i, -, rfl⟩ := IdSupply.mem_assign h
    exact noted _ (.inl ⟨e, he, rfl⟩) rfl
  · have isState := isState_of_mem_escalations keyed fresh h mem
    simp [Node.isState, type] at isState
  · obtain ⟨e, he, i, -, rfl⟩ := IdSupply.mem_assign h
    obtain ⟨he, lacks⟩ := List.mem_filter.mp he
    have same : e.2 = n := entry_eq_of_key_eq he mem
    simp [lacksBranch, same, type] at lacks
  · obtain ⟨s, hs, i, -, rfl⟩ := IdSupply.mem_assign h
    exact noted _ (.inr ⟨s, Option.mem_toList.mp hs, rfl⟩) rfl

/-- What a change says was connected is left by a new transition. -/
theorem exists_link_of_change {c : Change} (mem : c ∈ w.repairChanges ids)
    (kind : c.kind ∈ ChangeKind.connecting) : ∃ t ∈ w.newLinks ids, t.source = c.nodeId := by
  rcases mem_connecting.mp ⟨mem, kind⟩ with ⟨e, he, rfl⟩ | ⟨n, hn, rfl⟩
  · exact exists_closing ids he
  · obtain ⟨t, ht, source, -⟩ := exists_lastLink ids hn
    exact ⟨t, ht, source⟩

/-- A node of a repaired workflow was there before, perhaps without its deadline, or it is
no delay and has no deadline. -/
theorem mem_entries_grown (fresh : ids.FreshFor w) {n : Node}
    (mem : (key, n) ∈ (w.grown ids now).nodes.entries) :
    (∃ m, (key, m) ∈ w.nodes.entries ∧ n = m.withDeadline) ∨
      (∀ d, n.data ≠ .delay d) ∧ ∀ d, n.data = .state d → ¬d.IsEndless := by
  rcases mem_grown_cases fresh mem with old | ⟨new, -⟩
  · exact .inl old
  · right
    rcases data_of_mem_newNodes new with data | data <;> simp [data, StateData.IsEndless]

/-- A repaired workflow has rules exactly when no delay that the repair connected is
endless, provided that there were rules before. -/
theorem exists_compile_grown_iff (keyed : w.KeyedById) (fresh : ids.FreshFor w)
    (h : ∃ rules, w.compile = .ok rules) :
    (∃ rules, (w.grown ids now).compile = .ok rules) ↔
      ∀ c ∈ w.repairChanges ids, c.kind ∈ ChangeKind.connecting →
        ∀ n, w.nodes.get? c.nodeId = some n → ∀ d, n.data = .delay d → ¬d.IsEndless := by
  obtain ⟨delays, states⟩ := exists_compile_iff.mp h
  rw [exists_compile_iff]
  constructor
  · intro ⟨moves, _⟩ c hc kind n hn d delay
    obtain ⟨t, ht, source⟩ := exists_link_of_change hc kind
    rw [← source] at hn
    have known : t.source ∈ w.nodes.keys := Table.mem_keys_iff.mpr ⟨n, hn⟩
    have ordinary : w.isEntryTransition t = false :=
      isEntryTransition_of_not_trigger hn (by rw [delay]; rfl)
    have moved : (w.grown ids now).movesBy t = true := by
      rw [movesBy_eq_true, isEntryTransition_grown fresh]
      exact ⟨ordinary, newLinks_resolve keyed fresh ht⟩
    apply moves t (List.mem_append_right _ ht) moved n.withDeadline
    · rw [get?_grown fresh (.inl known), hn]
      rfl
    · exact Node.delay_withDeadline.mpr delay
  · intro connected
    constructor
    · intro t ht moves source hsource d delay
      obtain ⟨n, mem, rfl⟩ : ∃ n, (t.source, n) ∈ w.nodes.entries ∧ source = n.withDeadline := by
        rcases mem_entries_grown fresh (Table.get?_eq_some_iff.mp hsource) with old | new
        · exact old
        · exact absurd delay (new.1 d)
      rw [Node.delay_withDeadline] at delay
      rcases List.mem_append.mp ht with ht | ht
      · rw [movesBy_grown fresh ht] at moves
        exact delays t ht moves n (Table.get?_eq_some_iff.mpr mem) d delay
      · obtain ⟨c, hc, kind, source⟩ := exists_change_of_delay keyed fresh ht mem delay
        exact connected c hc kind n (source ▸ Table.get?_eq_some_iff.mpr mem) d delay
    · intro n hn d state
      obtain ⟨key, mem⟩ := Table.mem_values_iff.mp hn
      rcases mem_entries_grown fresh mem with ⟨m, hm, rfl⟩ | new
      · rw [← NodeData.state?_eq_some, Node.state?_withDeadline, Option.map_eq_some_iff] at state
        obtain ⟨d, state, rfl⟩ := state
        rw [StateData.isEndless_timed]
        exact states m (Table.mem_values_iff.mpr ⟨key, hm⟩) d (NodeData.state?_eq_some.mp state)
      · exact new.2 d state

/-! ## All rules -/

/-- Each state that gets a deadline is noted. -/
theorem length_deadlines (w : Workflow) (ids : IdSupply String) :
    ((w.repairChanges ids).filter (·.kind == .addDeadline)).length =
      (w.nodes.entries.filterMap fun e => e.2.openState?).length := by
  have deadlines : ((w.nodes.entries.filterMap fun e =>
      e.2.openState?.map (Draft.deadlineChange e.1)).filter (·.kind == .addDeadline)) =
      w.nodes.entries.filterMap fun e => e.2.openState?.map (Draft.deadlineChange e.1) := by
    rw [List.filter_eq_self]
    intro c hc
    obtain ⟨e, -, hc⟩ := List.mem_filterMap.mp hc
    obtain ⟨d, -, rfl⟩ := Option.map_eq_some_iff.mp hc
    rfl
  have other : ∀ {α : Type} (note : α → Change) (items : List α),
      (∀ a, (note a).kind ≠ .addDeadline) →
        (items.map note).filter (·.kind == .addDeadline) = [] := by
    intro α note items kind
    rw [List.filter_eq_nil_iff]
    intro c hc
    obtain ⟨a, -, rfl⟩ := List.mem_map.mp hc
    simpa using kind a
  simp only [repairChanges, List.filter_append, deadlines]
  rw [other _ _ fun n => by simp, other _ _ fun e => by simp [Draft.closingNote],
    other _ _ fun n => by simp [Draft.escalationNote],
    other _ _ fun e => by simp [Draft.branchNote], other _ _ fun n => by simp [Draft.lastNote]]
  simp [List.length_filterMap_eq_countP]

/-- A repair neither loses nor alters a rule. With nodes under their own ids and with fresh
ids, a workflow that has rules has them still once it is repaired, unless the repair
connected an endless delay; this is the only obstacle. The rules from before stand among
the new ones, unaltered and in their order, and there is one more for each transition that
was added and for each deadline that the changes note. -/
theorem compile_repair_iff (keyed : w.KeyedById) (fresh : ids.FreshFor w)
    (h : w.compile = .ok rules) (now : Option Timestamp) :
    ((∃ rules', (w.repair ids now).workflow.compile = .ok rules') ↔
      ∀ c ∈ (w.repair ids now).changes, c.kind ∈ ChangeKind.connecting →
        ∀ n, w.nodes.get? c.nodeId = some n → ∀ d, n.data = .delay d → ¬d.IsEndless) ∧
    ∀ rules', (w.repair ids now).workflow.compile = .ok rules' → rules.Sublist rules' ∧
      ∃ links, (w.repair ids now).workflow.transitions = w.transitions ++ links ∧
        rules'.length = rules.length + links.length +
          ((w.repair ids now).changes.filter (·.kind == .addDeadline)).length := by
  have changes : (w.repair ids now).changes = w.repairChanges ids := by
    rw [repair_eq keyed fresh]
  rw [workflow_repair keyed fresh, changes]
  refine ⟨exists_compile_grown_iff keyed fresh ⟨rules, h⟩, ?_⟩
  intro rules' h'
  have related := forall₂_origins (keyedById_grown keyed fresh) h'
  constructor
  · obtain ⟨kept, hkept, sub⟩ := exists_sublist_of_sublist (origins_sublist fresh) related
    have old := (List.forall₂_and_left _ _).mpr ⟨fun o ho => ho, forall₂_origins keyed h⟩
    have still : List.Forall₂ (w.grown ids now).IsRuleOf w.origins rules :=
      old.imp fun o r found => found.2.grown fresh found.1
    have same : rules = kept :=
      List.right_unique_forall₂' (fun _ _ _ rule rule' => rule.unique rule') still hkept
    exact same ▸ sub
  · refine ⟨w.newLinks ids, rfl, ?_⟩
    rw [← related.length_eq, ← (forall₂_origins keyed h).length_eq, length_deadlines]
    exact length_origins_grown keyed fresh

/-- Tickets leave on entering, or they pause for some minutes and are stuck there. -/
def pausing (minutes : Nat) : Workflow where
  id := "wf"
  name := "Stuck"
  nodes := ⟨[("t", ⟨"t", .trigger ⟨"create", []⟩, ⟨0, 0⟩⟩),
    ("d", ⟨"d", .delay ⟨"time", some (.int minutes), none⟩, ⟨0, 0⟩⟩),
    ("e", ⟨"e", .terminal ⟨"End"⟩, ⟨0, 0⟩⟩)], by simp⟩
  transitions := [.plain "t1" "t" "d" none, .plain "t2" "t" "e" none]
  entryId := "t"
  enabled := true
  version := 1
  description := none
  createdAt := none
  updatedAt := none

section Pausing

variable {minutes : Nat}

theorem pausing_keyedById : (pausing minutes).KeyedById := by
  simp [KeyedById, pausing]

theorem pausing_freshFor :
    (⟨stemmedId "gen-", 0⟩ : IdSupply String).FreshFor (pausing minutes) := by
  apply IdSupply.freshFor_of_forall
  change ∀ name ∈ ["t", "t", "d", "e", "t", "d", "t", "e"], _
  decide

/-- Every transition leaves the trigger at the entry, so the delay is not looked at. -/
theorem pausing_compiles (minutes : Nat) : ∃ rules, (pausing minutes).compile = .ok rules := by
  have trigger : (pausing minutes).entryTrigger?.isSome = true := rfl
  have sources : ∀ t ∈ (pausing minutes).transitions, t.source = "t" := by
    simp [pausing, Transition.plain]
  apply exists_compile_iff.mpr
  constructor
  · intro t ht moves
    have entry : (pausing minutes).isEntryTransition t = true :=
      Bool.and_eq_true_iff.mpr ⟨trigger, beq_iff_eq.mpr (sources t ht)⟩
    rw [(movesBy_eq_true.mp moves).1] at entry
    cases entry
  · simp [pausing, Table.values]

/-- The one delay, and what is said of its time. -/
theorem pausing_isEndless_iff {key : String} {n : Node} {d : DelayData}
    (hn : (pausing minutes).nodes.get? key = some n) (delay : n.data = .delay d) :
    d.IsEndless ↔ (Number.int minutes).HasNoHours := by
  have mem := Table.get?_eq_some_iff.mp hn
  simp only [pausing, List.mem_cons, Prod.mk.injEq, List.not_mem_nil, or_false] at mem
  rcases mem with ⟨-, rfl⟩ | ⟨-, rfl⟩ | ⟨-, rfl⟩
  · cases delay
  · cases delay
    simp [DelayData.IsEndless, DelayData.isTimed]
  · cases delay

/-- Nothing leaves the delay before the repair. -/
theorem pausing_dead_end : ∃ e ∈ (pausing minutes).deadEnds,
    (pausing minutes).nodes.get? e.1 = some e.2 ∧
      e.2.data = .delay ⟨"time", some (.int minutes), none⟩ := by
  refine ⟨("d", ⟨"d", .delay ⟨"time", some (.int minutes), none⟩, ⟨0, 0⟩⟩), ?_, rfl, rfl⟩
  apply List.mem_filter.mpr
  exact ⟨List.mem_cons_of_mem _ List.mem_cons_self, rfl⟩

theorem pausing_repair_fails (h : (Number.int minutes).HasNoHours) : ¬∃ rules',
    ((pausing minutes).repair ⟨stemmedId "gen-", 0⟩ none).workflow.compile = .ok rules' := by
  intro found
  rw [workflow_repair pausing_keyedById pausing_freshFor,
    exists_compile_grown_iff pausing_keyedById pausing_freshFor (pausing_compiles minutes)] at found
  obtain ⟨e, dead, he, delay⟩ := pausing_dead_end
  obtain ⟨mem, kind⟩ := mem_connecting.mpr (.inl ⟨e, dead, rfl⟩)
  apply found _ mem kind e.2 he _ delay
  exact (pausing_isEndless_iff he delay).mpr h

end Pausing

/-- A pause of an hour and a half is connected to the end node, and this adds one rule. -/
theorem pausing_compile_repair : (pausing 90).KeyedById ∧
    (⟨stemmedId "gen-", 0⟩ : IdSupply String).FreshFor (pausing 90) ∧
    ∃ rules rules', (pausing 90).compile = .ok rules ∧
      ((pausing 90).repair ⟨stemmedId "gen-", 0⟩ none).workflow.compile = .ok rules' ∧
      rules.Sublist rules' ∧ rules'.length = rules.length + 1 := by
  obtain ⟨rules, h⟩ := pausing_compiles 90
  obtain ⟨success, kept⟩ := compile_repair_iff pausing_keyedById pausing_freshFor h none
  have short : ¬(Number.int (90 : Nat)).HasNoHours := by
    intro ⟨_, error⟩
    exact absurd error (by decide)
  obtain ⟨rules', h'⟩ := success.mpr fun c _ _ n hn d delay =>
    mt (pausing_isEndless_iff hn delay).mp short
  obtain ⟨sub, links, transitions, length⟩ := kept rules' h'
  have one : links.length = 1 := by
    have total := congrArg List.length transitions
    rw [List.length_append] at total
    exact Nat.add_left_cancel total.symm
  refine ⟨pausing_keyedById, pausing_freshFor, rules, rules', h, h', sub, ?_⟩
  rw [length, one]
  rfl

/-- A pause of so many minutes that no double is near its hours does no harm while nothing
leaves it. The repair connects it to the end node, and then there are no rules at all. -/
theorem pausing_too_long_has_no_rules : (pausing (60 * 10 ^ 400)).KeyedById ∧
    (⟨stemmedId "gen-", 0⟩ : IdSupply String).FreshFor (pausing (60 * 10 ^ 400)) ∧
    (∃ rules, (pausing (60 * 10 ^ 400)).compile = .ok rules) ∧
    ¬∃ rules', ((pausing (60 * 10 ^ 400)).repair ⟨stemmedId "gen-", 0⟩ none).workflow.compile =
      .ok rules' := by
  have long : (Number.int (60 * 10 ^ 400 : Nat)).HasNoHours :=
    ⟨by decide +kernel, by decide +kernel⟩
  exact ⟨pausing_keyedById, pausing_freshFor, pausing_compiles _, pausing_repair_fails long⟩

end Workflow

end TicketFlow
