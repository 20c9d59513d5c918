import TicketFlow.Proofs.Repair.Settled
import TicketFlow.Proofs.Rule.Branch

/-!
# The second branch of a decision

A repair gives a condition with one branch a second one. It looks for the key "yes" alone,
while the compiler reads further keys as a yes or a no. So the second branch is the opposite
of the first one unless the first is a yes under another key.
-/

namespace TicketFlow

namespace Workflow

variable {w : Workflow} {ids : IdSupply String} {now : Option Timestamp} {key : String}
variable {n : Node} {t : Transition}

/-- A branch of one kind leaves a key. -/
def HasBranch (w : Workflow) (key : String) (kind : List String) : Prop :=
  ∃ t ∈ w.outgoing key, ∃ branchKey ∈ kind, t.branchKey = some branchKey

/-! ## What is added to a condition with one exit -/

/-- What can be left is not closed. -/
theorem closings_from_eq_nil (ids : IdSupply String) (exits : w.outgoing key ≠ []) :
    ((w.closings ids).filter fun t => t.source == key) = [] := by
  have none : (w.deadEnds.filter fun e => e.1 == key) = [] := by
    apply List.filter_eq_nil_iff.mpr
    intro e mem same
    have dead := (List.mem_filter.mp mem).2
    rw [beq_iff_eq.mp same, isDeadEnd, Bool.and_eq_true, List.isEmpty_iff] at dead
    exact exits dead.2
  apply List.eq_nil_of_length_eq_zero
  rw [length_closings_from, none, List.length_nil]

/-- A condition with fewer than two exits gets one branch. -/
theorem exists_branch_from (ids : IdSupply String) (half : (key, n) ∈ w.halfDecisions) :
    ∃ id, ((w.branches ids).filter fun t => t.source == key) =
      [Draft.branch w (w.goal ids).id (key, n) id] := by
  obtain ⟨i, -, mem⟩ := IdSupply.exists_mem_assign (s := w.idsForBranches ids)
    (m := Draft.branch w (w.goal ids).id) half
  have kept : Draft.branch w (w.goal ids).id (key, n) ((w.idsForBranches ids).ids i) ∈
      (w.branches ids).filter fun t => t.source == key :=
    List.mem_filter.mpr ⟨mem, beq_self_eq_true key⟩
  have single : ((w.branches ids).filter fun t => t.source == key).length ≤ 1 := by
    rw [branches, length_assign_from fun _ _ => rfl]
    exact Table.length_filter_key_le w.nodes (fun e => w.lacksBranch e.1 e.2) key
  obtain ⟨t, only⟩ := List.length_eq_one_iff.mp
    (Nat.le_antisymm single (List.length_pos_of_mem kept))
  rw [only, List.mem_singleton] at kept
  exact ⟨_, by rw [only, kept]⟩

/-- A condition with one exit has two in the repaired workflow, and the second one is the
branch that was missing. -/
theorem outgoing_grown_of_single (keyed : w.KeyedById) (fresh : ids.FreshFor w)
    (mem : (key, n) ∈ w.nodes.entries) (condition : n.type = .condition)
    (single : w.outgoing key = [t]) :
    ∃ id, (w.grown ids now).outgoing key = [t, Draft.branch w (w.goal ids).id (key, n) id] := by
  have half : (key, n) ∈ w.halfDecisions :=
    List.mem_filter.mpr ⟨mem, by simp [lacksBranch, condition, single]⟩
  have leads : w.leadsToEnd = true := by
    have some : w.halfDecisions.isEmpty = false := List.isEmpty_eq_false_iff.mpr
      (List.ne_nil_of_mem half)
    rw [leadsToEnd, some, Bool.not_false, Bool.or_true]
  have before : ((w.closings ids ++ w.escalations ids).filter fun t => t.source == key) = [] := by
    rw [outgoing_condition keyed fresh mem condition]
    exact closings_from_eq_nil ids (by simp [single])
  have after : w.lastLinks ids = [] := by simp [lastLinks, lastSource?, leads]
  obtain ⟨id, branch⟩ := exists_branch_from ids half
  refine ⟨id, ?_⟩
  rw [outgoing_grown, single, newLinks, after, List.append_nil, List.filter_append, before,
    branch]
  rfl

/-- The missing branch at a key with one exit. -/
theorem missingBranch_of_single {branchKey : String} (single : w.outgoing key = [t])
    (branch : t.branchKey = some branchKey) :
    w.missingBranch key = if branchKey = "yes" then "no" else "yes" := by
  simp [missingBranch, single, branch]

/-! ## Both kinds of branches -/

/-- With a branch that is a yes or a no and the one that a repair adds to it there are both
kinds, unless the first is keyed "true". -/
theorem both_kinds_iff {branchKey : String} (read : branchKey ∈ yesBranches ++ noBranches) :
    let missing := if branchKey = "yes" then "no" else "yes"
    (branchKey ∈ yesBranches ∨ missing ∈ yesBranches) ∧
      (branchKey ∈ noBranches ∨ missing ∈ noBranches) ↔ branchKey ≠ "true" := by
  simp only [yesBranches, noBranches, List.cons_append, List.nil_append, List.mem_cons,
    List.not_mem_nil, or_false] at read
  rcases read with rfl | rfl | rfl | rfl <;> decide

theorem hasBranch_of_pair {added : Transition} {first second : String} {kind : List String}
    (exits : w.outgoing key = [t, added]) (firstKey : t.branchKey = some first)
    (secondKey : added.branchKey = some second) :
    w.HasBranch key kind ↔ first ∈ kind ∨ second ∈ kind := by
  simp [HasBranch, exits, firstKey, secondKey]

/-- The node that repairs lead to is an end node of the repaired workflow. -/
theorem exists_goal_grown (keyed : w.KeyedById) (fresh : ids.FreshFor w) :
    ∃ goal, (w.grown ids now).nodes.get? (w.goal ids).id = some goal ∧ goal.isEnd = true := by
  rcases goal_cases ids keyed with ⟨first, isFirst, same, mem⟩ | ⟨-, mem⟩
  · rw [same]
    refine ⟨_, Table.get?_eq_some_iff.mpr (withDeadline_mem_grown fresh mem), ?_⟩
    rw [Node.isEnd_withDeadline]
    exact List.find?_some isFirst
  · exact ⟨_, Table.get?_eq_some_iff.mpr (newNode_mem_grown fresh mem), isEnd_goal⟩

/-- A branch of a condition has a rule in the repaired workflow too, and it carries the guard
of the branch. -/
theorem exists_branch_rule_grown (keyed : w.KeyedById) (fresh : ids.FreshFor w)
    {rules : List Rule} (compiles : (w.grown ids now).compile = .ok rules)
    {d : ConditionData} (found : w.nodes.get? key = some n) (data : n.data = .condition d)
    (leaves : t ∈ (w.grown ids now).outgoing key)
    (arrives : t.target ∈ (w.grown ids now).nodes.keys) :
    ∃ r ∈ rules, r.id = Rule.makeId w.id ("t-" ++ t.id) ∧
      r.conditions = .standsAt w.id key :: d.branchGuard t.branchKey ++ t.conditions := by
  have noState : n.isState = false := by simp [Node.isState, Node.type, data, NodeData.type]
  have mentioned : w.Mentions key := .inl (Table.mem_keys_iff.mpr ⟨n, found⟩)
  have id : n.id = key := keyed (key, n) (Table.get?_eq_some_iff.mp found)
  obtain ⟨ht, source⟩ := List.mem_filter.mp leaves
  obtain ⟨target, htarget⟩ := Table.mem_keys_iff.mp arrives
  have hsource : (w.grown ids now).nodes.get? t.source = some n := by
    rw [beq_iff_eq.mp source, get?_grown fresh mentioned, found, Option.map_some,
      Node.withDeadline_of_not_isState noState]
  rw [← id]
  exact exists_branch_rule compiles ht hsource htarget data

/-- The branch that a repair adds to a condition with a single one, a yes or a no, leads to an
end node. It is of the other kind exactly when the single one is not keyed "true", and then
the compiler makes one rule from the conditions as they stand and one from their opposites.
Beside a branch keyed "true" the added one is a yes as well, and both test the same. -/
theorem repair_completes_branch_iff (keyed : w.KeyedById) (fresh : ids.FreshFor w)
    (now : Option Timestamp) {d : ConditionData} (found : w.nodes.get? key = some n)
    (data : n.data = .condition d) (single : w.outgoing key = [t]) {branchKey : String}
    (branch : t.branchKey = some branchKey) (read : branchKey ∈ yesBranches ++ noBranches) :
    let repaired := (w.repair ids now).workflow
    (∃ added, repaired.outgoing key = [t, added] ∧
      (∃ goal, repaired.nodes.get? added.target = some goal ∧ goal.isEnd = true) ∧
      added.branchKey = some (if branchKey = "yes" then "no" else "yes") ∧
      added.conditions = [] ∧ added.actions = []) ∧
    (repaired.HasBranch key yesBranches ∧ repaired.HasBranch key noBranches ↔
      branchKey ≠ "true") ∧
    (branchKey ≠ "true" → t.target ∈ w.nodes.keys → ∀ rules, repaired.compile = .ok rules →
      ∃ yes ∈ repaired.outgoing key, ∃ no ∈ repaired.outgoing key,
        ∃ r ∈ rules, ∃ r' ∈ rules,
          r.id = Rule.makeId w.id ("t-" ++ yes.id) ∧
          r.conditions = .standsAt w.id key :: d.conditions ++ yes.conditions ∧
          r'.id = Rule.makeId w.id ("t-" ++ no.id) ∧
          r'.conditions =
            .standsAt w.id key :: d.conditions.map Condition.negate ++ no.conditions) ∧
    (branchKey = "true" → ∀ exit ∈ repaired.outgoing key,
      d.branchGuard exit.branchKey = d.conditions) := by
  intro repaired
  have grown : repaired = w.grown ids now := workflow_repair keyed fresh
  have mem : (key, n) ∈ w.nodes.entries := Table.get?_eq_some_iff.mp found
  have condition : n.type = .condition := by rw [Node.type, data]; rfl
  obtain ⟨id, exits⟩ : ∃ id, (w.grown ids now).outgoing key =
      [t, Draft.branch w (w.goal ids).id (key, n) id] :=
    outgoing_grown_of_single keyed fresh mem condition single
  have second : (Draft.branch w (w.goal ids).id (key, n) id).branchKey =
      some (if branchKey = "yes" then "no" else "yes") :=
    congrArg some (missingBranch_of_single single branch)
  have leadsToGoal : ∃ goal, (w.grown ids now).nodes.get?
      (Draft.branch w (w.goal ids).id (key, n) id).target = some goal ∧ goal.isEnd = true :=
    exists_goal_grown keyed fresh
  have kinds : (w.grown ids now).HasBranch key yesBranches ∧
      (w.grown ids now).HasBranch key noBranches ↔ branchKey ≠ "true" := by
    rw [hasBranch_of_pair exits branch second, hasBranch_of_pair exits branch second]
    exact both_kinds_iff read
  rw [grown]
  refine ⟨⟨_, exits, leadsToGoal, second, rfl, rfl⟩, kinds, ?rules, ?same⟩
  case rules =>
    intro other known rules compiles
    have resolves : ∀ exit ∈ (w.grown ids now).outgoing key,
        exit.target ∈ (w.grown ids now).nodes.keys := by
      intro exit leaves
      rw [exits, List.mem_pair] at leaves
      rcases leaves with rfl | rfl
      · exact mem_keys_grownNodes fresh known
      · obtain ⟨goal, hgoal, -⟩ := leadsToGoal
        exact Table.mem_keys_iff.mpr ⟨goal, hgoal⟩
    obtain ⟨⟨yes, hyes, k, isYes, yesKey⟩, no, hno, k', isNo, noKey⟩ := kinds.mpr other
    obtain ⟨r, hr, rid, tests⟩ :=
      exists_branch_rule_grown keyed fresh compiles found data hyes (resolves yes hyes)
    obtain ⟨r', hr', rid', tests'⟩ :=
      exists_branch_rule_grown keyed fresh compiles found data hno (resolves no hno)
    rw [yesKey, ConditionData.branchGuard_yes isYes] at tests
    rw [noKey, ConditionData.branchGuard_no isNo] at tests'
    exact ⟨yes, hyes, no, hno, r, hr, r', hr', rid, tests, rid', tests'⟩
  case same =>
    rintro rfl exit leaves
    rw [exits, List.mem_pair] at leaves
    rcases leaves with rfl | rfl
    · rw [branch, ConditionData.branchGuard_yes (by decide)]
    · rw [second, ConditionData.branchGuard_yes (by decide)]

/-- The question of `unfinished` has a yes. It gets a no, and there is a rule for each. -/
theorem unfinished_completes_branch :
    let repaired := (unfinished.repair ⟨stemmedId "new", 0⟩ none).workflow
    let isOpen : Condition := ⟨"status", "is", .string "open"⟩
    unfinished.KeyedById ∧ (⟨stemmedId "new", 0⟩ : IdSupply String).FreshFor unfinished ∧
      repaired.HasBranch "ask" yesBranches ∧ repaired.HasBranch "ask" noBranches ∧
      ∃ rules, repaired.compile = .ok rules ∧
        (∃ r ∈ rules, r.conditions = [.standsAt "wf" "ask", isOpen]) ∧
        ∃ r ∈ rules, r.conditions = [.standsAt "wf" "ask", isOpen.negate] := by
  intro repaired isOpen
  have single : unfinished.outgoing "ask" =
      [{ Transition.plain "t3" "ask" "new" none with branchKey := some "yes" }] := rfl
  obtain ⟨⟨added, exits, -, -, plain, -⟩, kinds, compiled, -⟩ :=
    repair_completes_branch_iff unfinished_keyedById unfinished_freshFor none rfl rfl single rfl
      (by decide)
  obtain ⟨hasYes, hasNo⟩ := kinds.mpr (by decide)
  obtain ⟨rules, compiles⟩ : ∃ rules, repaired.compile = .ok rules := by
    have success : repaired.compile.isOk = true := by decide +kernel
    cases h : repaired.compile with
    | ok rules => exact ⟨rules, rfl⟩
    | error e => simp [h, Except.isOk, Except.toBool] at success
  obtain ⟨yes, hyes, no, hno, r, hr, r', hr', -, tests, -, tests'⟩ :=
    compiled (by decide) (by decide) rules compiles
  have bare : ∀ exit ∈ repaired.outgoing "ask", exit.conditions = [] := by
    intro exit leaves
    rw [exits, List.mem_pair] at leaves
    rcases leaves with rfl | rfl
    · rfl
    · exact plain
  rw [bare yes hyes] at tests
  rw [bare no hno] at tests'
  exact ⟨unfinished_keyedById, unfinished_freshFor, hasYes, hasNo, rules, compiles,
    ⟨r, hr, tests⟩, r', hr', tests'⟩

/-- The same workflow with another key for the one branch of its question. -/
def affirmed : Workflow :=
  { unfinished with
    transitions := [.plain "t1" "in" "new" none, .plain "t2" "new" "ask" none,
      { Transition.plain "t3" "ask" "new" none with branchKey := some "true" }] }

/-- The branch that it has is a yes, and so is the one that it gets. -/
theorem affirmed_lacks_no :
    let repaired := (affirmed.repair ⟨stemmedId "new", 0⟩ none).workflow
    affirmed.KeyedById ∧ (⟨stemmedId "new", 0⟩ : IdSupply String).FreshFor affirmed ∧
      (∃ t, affirmed.outgoing "ask" = [t] ∧ t.branchKey = some "true") ∧
      "true" ∈ yesBranches ∧
      (repaired.outgoing "ask").map Transition.branchKey = [some "true", some "yes"] ∧
      ¬repaired.HasBranch "ask" noBranches := by
  intro repaired
  have keyed : affirmed.KeyedById := unfinished_keyedById
  have fresh : (⟨stemmedId "new", 0⟩ : IdSupply String).FreshFor affirmed :=
    IdSupply.freshFor_of_forall (by decide)
  have keys : (repaired.outgoing "ask").map Transition.branchKey =
      [some "true", some "yes"] := by decide +kernel
  refine ⟨keyed, fresh, ⟨_, rfl, rfl⟩, by decide, keys, ?_⟩
  rintro ⟨exit, leaves, branchKey, isNo, hkey⟩
  have mem := List.mem_map_of_mem (f := Transition.branchKey) leaves
  rw [keys, hkey, List.mem_pair, Option.some.injEq, Option.some.injEq] at mem
  rcases mem with rfl | rfl
  · exact absurd isNo (by decide)
  · exact absurd isNo (by decide)

end Workflow

end TicketFlow
