import TicketFlow.Proofs.Repair.Issues

/-!
# Orphans of a repaired workflow

A repair connects every node that is no end, so the orphans that it leaves are end nodes,
and they were orphans before. It connects what it adds as well, with one exception: in a
workflow without nodes there is nothing that could lead to the end node that is added.
-/

namespace TicketFlow

namespace Workflow

variable {w : Workflow} {ids : IdSupply String} {now : Option Timestamp} {key : String}

/-- There is a node under a key, and it is neither the entry nor an end of a transition. -/
def Orphaned (w : Workflow) (key : String) : Prop :=
  key ∈ w.nodes.keys ∧ ¬w.Referenced key

theorem orphan_mem_issues_iff : Issue.orphan key ∈ w.issues ↔ w.Orphaned key := by
  rw [mem_issues_iff]
  exact ⟨Reports.key_alone, fun h => .orphan h.1 h.2⟩

/-- An end node that is an orphan and stays one: no repair leads to it. -/
def StaysOrphaned (w : Workflow) (key : String) : Prop :=
  w.Orphaned key ∧ ∃ n, (key, n) ∈ w.nodes.entries ∧ n.isEnd = true ∧
    ¬(w.firstEnd? = some n ∧ w.leadsToEnd = true)

/-! ## A workflow without nodes -/

theorem leadsToEnd_of_blank (blank : w.nodes.entries = []) : w.leadsToEnd = false := by
  simp [leadsToEnd, deadEnds, needsEscalation, halfDecisions, Table.values_eq_map_entries, blank]

theorem firstEnd?_of_blank (blank : w.nodes.entries = []) : w.firstEnd? = none := by
  simp [firstEnd?, Table.values_eq_map_entries, blank]

/-- Without nodes a repair adds an end node and no transition. -/
theorem newNodes_of_blank (blank : w.nodes.entries = []) :
    w.newNodes ids = [w.endNode ids.next] ∧ w.newLinks ids = [] := by
  have leads := leadsToEnd_of_blank blank
  have none := firstEnd?_of_blank blank
  obtain ⟨noLinks, noStates⟩ := @links_eq_nil w ids leads
  constructor
  · simp [newNodes, newEnds, none, noStates]
  · rw [newLinks, noLinks]
    simp [lastLinks, lastSource?, none, leads, Table.values_eq_map_entries, blank,
      Draft.bestSource?]

/-- So it is an orphan, and there is no other node. -/
theorem orphaned_grown_of_blank (fresh : ids.FreshFor w) (blank : w.nodes.entries = []) :
    (w.grown ids now).Orphaned key ↔ key = ids.next := by
  obtain ⟨nodes, links⟩ := @newNodes_of_blank w ids blank
  have keys : (w.grown ids now).nodes.keys = [ids.next] := by
    rw [grown, keys_grownNodes fresh, nodes, Table.keys_eq_map_entries, blank]
    rfl
  have same : ∀ key, (w.grown ids now).Referenced key ↔ w.Referenced key := by
    intro key
    simp [Referenced, grown, links]
  rw [Orphaned, keys, List.mem_singleton, same]
  constructor
  · exact And.left
  · rintro rfl
    exact ⟨rfl, fun connected =>
      fresh.not_mentioned ids.drawn (Nat.le_refl _) (.inr connected)⟩

/-! ## A workflow with nodes -/

theorem orphaned_grown_of_nodes (keyed : w.KeyedById) (fresh : ids.FreshFor w)
    (nodes : w.nodes.entries ≠ []) :
    (w.grown ids now).Orphaned key ↔ w.StaysOrphaned key := by
  constructor
  · rintro ⟨mem, alone⟩
    obtain ⟨n, mem⟩ := Table.mem_keys_iff.mp mem
    rcases mem_grown_cases fresh (Table.get?_eq_some_iff.mp mem) with ⟨old, hold, -⟩ | ⟨hnew, rfl⟩
    · have orphaned : w.Orphaned key :=
        ⟨List.mem_map.mpr ⟨_, hold, rfl⟩, fun connected => alone (referenced_grown connected)⟩
      have left : ¬(old.isEnd = true → w.Referenced key ∨
          w.firstEnd? = some old ∧ w.leadsToEnd = true) :=
        fun reached => alone (referenced_oldNodes fresh keyed hold reached)
      rw [Classical.not_imp, not_or] at left
      exact ⟨orphaned, old, hold, left.1, left.2.2⟩
    · have values : w.nodes.values ≠ [] := fun none => nodes (List.map_eq_nil_iff.mp none)
      obtain ⟨t, ht, target⟩ := exists_arrival values hnew
      exact absurd (.inr ⟨t, List.mem_append_right _ ht, .inr target⟩) alone
  · rintro ⟨⟨mem, alone⟩, n, hn, isEnd, unled⟩
    refine ⟨mem_keys_grownNodes fresh mem, fun connected => ?_⟩
    exact (reached_of_grown keyed fresh hn isEnd connected).elim alone unled

/-- With nodes under their own ids and with fresh ids, each orphan that a repaired workflow
reports was a node before and was reported then, exactly if there was a node at all: so no
node that a repair adds is an orphan. The orphans that stay are the end nodes that no repair
leads to. Without any node the only orphan is the end node that is added. -/
theorem orphans_of_repair (keyed : w.KeyedById) (fresh : ids.FreshFor w)
    (now : Option Timestamp) :
    ((∀ key, Issue.orphan key ∈ (w.repair ids now).workflow.issues →
        key ∈ w.nodes.keys ∧ Issue.orphan key ∈ w.issues) ↔ w.nodes.entries ≠ []) ∧
    (w.nodes.entries ≠ [] → ∀ key, Issue.orphan key ∈ (w.repair ids now).workflow.issues ↔
      Issue.orphan key ∈ w.issues ∧ ∃ n, (key, n) ∈ w.nodes.entries ∧ n.isEnd = true ∧
        ¬(w.firstEnd? = some n ∧ ∃ c ∈ (w.repair ids now).changes,
          c.kind ∈ [ChangeKind.connectDeadEnd, .addEscalation, .fixBranch])) ∧
    (w.nodes.entries = [] → ∀ key,
      Issue.orphan key ∈ (w.repair ids now).workflow.issues ↔ key = ids.next) := by
  rw [workflow_repair keyed fresh, changes_repair keyed fresh]
  simp only [orphan_mem_issues_iff]
  refine ⟨⟨fun spared blank => ?gained, fun nodes key alone => ?spared⟩, fun nodes key => ?stays,
    fun blank key => orphaned_grown_of_blank fresh blank⟩
  case gained =>
    obtain ⟨mem, -⟩ := spared ids.next ((orphaned_grown_of_blank fresh blank).mpr rfl)
    exact fresh.next_not_mem mem
  case spared =>
    obtain ⟨before, -⟩ := (orphaned_grown_of_nodes keyed fresh nodes).mp alone
    exact ⟨before.1, before⟩
  case stays =>
    rw [orphaned_grown_of_nodes keyed fresh nodes, StaysOrphaned, leadsToEnd_iff]
    rfl

/-- A trigger that nothing leaves, beside two ends that nothing leads to. -/
def twoEnds : Workflow where
  id := "wf"
  name := "Two ends"
  nodes := ⟨[("in", ⟨"in", .trigger ⟨"create", []⟩, ⟨0, 0⟩⟩),
    ("done", ⟨"done", .terminal ⟨"Done"⟩, ⟨0, 140⟩⟩),
    ("lost", ⟨"lost", .terminal ⟨"Lost"⟩, ⟨0, 280⟩⟩)], by decide⟩
  transitions := []
  entryId := "in"
  enabled := true
  version := 1
  description := none
  createdAt := none
  updatedAt := none

/-- Both ends are orphans. The repair leads to the first one, and the second one stays what
it was. -/
theorem twoEnds_orphans_of_repair :
    let repaired := (twoEnds.repair ⟨stemmedId "entry", 0⟩ none).workflow
    twoEnds.KeyedById ∧ (⟨stemmedId "entry", 0⟩ : IdSupply String).FreshFor twoEnds ∧
      twoEnds.nodes.entries ≠ [] ∧ Issue.orphan "done" ∈ twoEnds.issues ∧
      Issue.orphan "done" ∉ repaired.issues ∧ Issue.orphan "lost" ∈ repaired.issues ∧
      ∀ key, Issue.orphan key ∈ repaired.issues →
        key ∈ twoEnds.nodes.keys ∧ Issue.orphan key ∈ twoEnds.issues := by
  intro repaired
  have keyed : twoEnds.KeyedById := by simp [KeyedById, twoEnds]
  have fresh : (⟨stemmedId "entry", 0⟩ : IdSupply String).FreshFor twoEnds :=
    IdSupply.freshFor_of_forall (by decide)
  have nodes : twoEnds.nodes.entries ≠ [] := List.cons_ne_nil _ _
  have led : Issue.orphan "done" ∉ repaired.issues := by decide +kernel
  have unled : Issue.orphan "lost" ∈ repaired.issues := by decide +kernel
  exact ⟨keyed, fresh, nodes, by decide, led, unled,
    (orphans_of_repair keyed fresh none).1.mpr nodes⟩

/-- No nodes and no transitions. -/
def blank : Workflow where
  id := "wf"
  name := "Blank"
  nodes := ⟨[], by decide⟩
  transitions := []
  entryId := ""
  enabled := true
  version := 1
  description := none
  createdAt := none
  updatedAt := none

/-- The repair of a workflow without nodes adds an end node that is an orphan. -/
theorem blank_gains_orphan :
    blank.KeyedById ∧ (⟨stemmedId "new", 0⟩ : IdSupply String).FreshFor blank ∧
      ¬∀ key, Issue.orphan key ∈ (blank.repair ⟨stemmedId "new", 0⟩ none).workflow.issues →
        key ∈ blank.nodes.keys ∧ Issue.orphan key ∈ blank.issues := by
  have keyed : blank.KeyedById := by simp [KeyedById, blank]
  have fresh : (⟨stemmedId "new", 0⟩ : IdSupply String).FreshFor blank :=
    IdSupply.freshFor_of_forall (by decide)
  refine ⟨keyed, fresh, fun spared => ?_⟩
  have alone : Issue.orphan "new0" ∈
      (blank.repair ⟨stemmedId "new", 0⟩ none).workflow.issues := by decide +kernel
  exact absurd (spared "new0" alone).1 (by decide)

end Workflow

end TicketFlow
