import TicketFlow.Proofs.Rule.Branch
import TicketFlow.Proofs.Table

/-!
# When branches exclude each other

A yes branch tests the conditions of its node and a no branch each of them negated. An
operator without an opposite is not changed by negating. So a ticket can be let through
both branches exactly when no condition of the node can be negated, and then both test the
same. Negating is undone by negating again.
-/

namespace TicketFlow

namespace Condition

theorem negate_of_not_isNegatable {c : Condition} (h : ¬c.IsNegatable) : c.negate = c := by
  rw [negate, negateOperator_of_not_mem h]

theorem map_negate_of_not_isNegatable {conditions : List Condition}
    (h : ∀ c ∈ conditions, ¬c.IsNegatable) : conditions.map negate = conditions :=
  (List.map_congr_left fun c hc => negate_of_not_isNegatable (h c hc)).trans (List.map_id' _)

theorem map_negate_map_negate (conditions : List Condition) :
    (conditions.map negate).map negate = conditions := by
  simp [Function.comp_def]

end Condition

/-- The assignment that holds wherever opposites leave it the choice. -/
def lenient (c : Condition) : Prop :=
  c.IsNegatable → c.IsAffirmative

theorem respects_lenient : Respects lenient := by
  intro c h
  obtain ⟨negatable, -, affirmative⟩ := h.opposite
  simp [lenient, h, negatable, affirmative]

/-- Conditions and their negations hold together exactly when none can be negated. -/
theorem exists_passes_both_iff {conditions : List Condition} :
    (∃ truth, Respects truth ∧ Passes truth conditions ∧
      Passes truth (conditions.map Condition.negate)) ↔ ∀ c ∈ conditions, ¬c.IsNegatable := by
  constructor
  · rintro ⟨truth, respects, affirmed, negated⟩ c hc negatable
    have opposite : truth c.negate := negated _ (List.mem_map_of_mem hc)
    exact (respects c negatable).mp opposite (affirmed c hc)
  · intro none
    have holds : Passes lenient conditions := fun c hc negatable => absurd negatable (none c hc)
    refine ⟨lenient, respects_lenient, holds, ?_⟩
    rwa [Condition.map_negate_of_not_isNegatable none]

namespace Workflow

variable {w : Workflow} {t : Transition} {source : Node} {d : ConditionData}

/-- The rule of a branch without conditions of its own tests the tag of the node and the
guard of the branch. It does not depend on what else the workflow holds. -/
theorem exists_bare_branch_rule (ht : t ∈ w.transitions)
    (hsource : w.nodes.get? t.source = some source) (hd : source.data = .condition d)
    (htarget : t.target ∈ w.nodes.keys) (bare : t.conditions = []) :
    ∃ r, w.transitionRule t = .ok (some r) ∧ (∀ rules, w.compile = .ok rules → r ∈ rules) ∧
      r.conditions = .standsAt w.id source.id :: d.branchGuard t.branchKey := by
  obtain ⟨target, htarget⟩ := Table.mem_keys_iff.mp htarget
  obtain ⟨ordinary, r, compiled, -, tests⟩ :=
    exists_transitionRule_of_condition hsource htarget hd
  refine ⟨r, compiled, fun rules h => ?_, by rw [tests, bare, List.append_nil]⟩
  exact (mem_compile h).mpr (.inr (.inl ⟨t, ht, ordinary, compiled⟩))

/-- A yes and a no branch of a condition node, both to nodes of the workflow and without
conditions of their own, have rules that test the tag of the node and then a guard. Some
ticket passes both guards exactly when no condition of the node has an operator with an
opposite, and then the guards are the same. Negating the guard of the no branch gives back
that of the yes branch, because negating undoes itself on all conditions and operators. -/
theorem branches_exclude_iff (w : Workflow) (yes no : Transition) (source : Node)
    (d : ConditionData) (yesMem : yes ∈ w.transitions) (noMem : no ∈ w.transitions)
    (hsource : w.nodes.get? yes.source = some source) (same : no.source = yes.source)
    (hd : source.data = .condition d) (yesTarget : yes.target ∈ w.nodes.keys)
    (noTarget : no.target ∈ w.nodes.keys) (yesKey : ∃ key ∈ yesBranches, yes.branchKey = some key)
    (noKey : ∃ key ∈ noBranches, no.branchKey = some key) (yesBare : yes.conditions = [])
    (noBare : no.conditions = []) :
    (∃ r r' guard guard', w.transitionRule yes = .ok (some r) ∧
      w.transitionRule no = .ok (some r') ∧
      (∀ rules, w.compile = .ok rules → r ∈ rules ∧ r' ∈ rules) ∧
      r.conditions = .standsAt w.id source.id :: guard ∧
      r'.conditions = .standsAt w.id source.id :: guard' ∧
      ((∃ truth, Respects truth ∧ Passes truth guard ∧ Passes truth guard') ↔
        ∀ c ∈ d.conditions, ¬c.IsNegatable) ∧
      ((∀ c ∈ d.conditions, ¬c.IsNegatable) → guard = guard') ∧
      guard'.map Condition.negate = guard) ∧
    (∀ conditions : List Condition,
      (conditions.map Condition.negate).map Condition.negate = conditions) ∧
    ∀ operator, Condition.negateOperator (Condition.negateOperator operator) = operator := by
  obtain ⟨key, isYes, yesKey⟩ := yesKey
  obtain ⟨key', isNo, noKey⟩ := noKey
  obtain ⟨r, compiled, mem, tests⟩ := exists_bare_branch_rule yesMem hsource hd yesTarget yesBare
  obtain ⟨r', compiled', mem', tests'⟩ :=
    exists_bare_branch_rule noMem (same ▸ hsource) hd noTarget noBare
  rw [yesKey, ConditionData.branchGuard_yes isYes] at tests
  rw [noKey, ConditionData.branchGuard_no isNo] at tests'
  refine ⟨⟨r, r', _, _, compiled, compiled', fun rules h => ⟨mem rules h, mem' rules h⟩, tests,
    tests', exists_passes_both_iff, fun none => ?_, Condition.map_negate_map_negate _⟩,
    Condition.map_negate_map_negate, Condition.negateOperator_negateOperator⟩
  exact (Condition.map_negate_of_not_isNegatable none).symm

/-- Open tickets with a subject that answers another one. The second test can be negated and
the first cannot. -/
def openReply : ConditionData :=
  ⟨"all", [⟨"subject", "starts_with", .string "Re:"⟩, ⟨"status", "is", .string "open"⟩]⟩

/-- The branch of open answers. -/
def takeUp : Transition :=
  { Transition.plain "t2" "ask" "in" none with branchKey := some "true" }

/-- The branch of all other tickets. -/
def turnDown : Transition :=
  { Transition.plain "t3" "ask" "end" none with branchKey := some "no" }

/-- A decision with a branch back to the entry and one to the end. -/
def answering : Workflow where
  id := "wf"
  name := "Answering"
  nodes := ⟨[("in", ⟨"in", .trigger ⟨"create", []⟩, ⟨0, 0⟩⟩),
    ("ask", ⟨"ask", .condition openReply, ⟨0, 140⟩⟩),
    ("end", ⟨"end", .terminal ⟨"Done"⟩, ⟨0, 280⟩⟩)], by decide⟩
  transitions := [.plain "t1" "in" "ask" none, takeUp, turnDown]
  entryId := "in"
  enabled := true
  version := 1
  description := none
  createdAt := none
  updatedAt := none

/-- One condition that can be negated is enough: no ticket passes both branches, though the
other condition is tested by both. -/
theorem answering_branches_exclude :
    takeUp ∈ answering.transitions ∧ turnDown ∈ answering.transitions ∧
      answering.nodes.get? "ask" = some ⟨"ask", .condition openReply, ⟨0, 140⟩⟩ ∧
      ∃ r r' guard guard', answering.transitionRule takeUp = .ok (some r) ∧
        answering.transitionRule turnDown = .ok (some r') ∧
        r.conditions = .standsAt "wf" "ask" :: guard ∧
        r'.conditions = .standsAt "wf" "ask" :: guard' ∧
        ¬∃ truth, Respects truth ∧ Passes truth guard ∧ Passes truth guard' := by
  have yesMem : takeUp ∈ answering.transitions := by simp [answering]
  have noMem : turnDown ∈ answering.transitions := by simp [answering]
  have hsource : answering.nodes.get? "ask" = some ⟨"ask", .condition openReply, ⟨0, 140⟩⟩ := rfl
  obtain ⟨⟨r, r', guard, guard', compiled, compiled', -, tests, tests', both, -, -⟩, -⟩ :=
    branches_exclude_iff answering takeUp turnDown _ openReply yesMem noMem hsource rfl rfl
      (by decide) (by decide) ⟨"true", by decide, rfl⟩ ⟨"no", by decide, rfl⟩ rfl rfl
  refine ⟨yesMem, noMem, hsource, r, r', guard, guard', compiled, compiled', tests, tests', ?_⟩
  intro passed
  exact both.mp passed ⟨"status", "is", .string "open"⟩ (by simp [openReply])
    (by simp [Condition.IsNegatable, Condition.negations])

end Workflow

end TicketFlow
