import TicketFlow.Proofs.Rule.Compile

/-!
# Branches and decisions

A condition node decides by all or by any of its conditions, while the guard of a
branch is always a conjunction: the conditions themselves, or each of them
negated. The main statement says when the guards follow the decision. It also
says what they test in every case, and that the rules of the branches carry
exactly these guards.

Truth is an arbitrary assignment to single conditions. All that is asked of it is
that an operator and its opposite never agree.
-/

namespace TicketFlow

namespace Condition

/-- An operator that has an opposite. -/
def IsNegatable (c : Condition) : Prop :=
  c.operator ∈ negations.map Prod.fst

/-- The operators of which one is chosen from each pair of opposites. -/
def IsAffirmative (c : Condition) : Prop :=
  c.operator ∈ ["is", "equals", "contains", "greater_than", "is_empty", "in"]

theorem negateOperator_of_not_mem {operator : String}
    (h : operator ∉ negations.map Prod.fst) : negateOperator operator = operator := by
  have unknown : negations.lookup operator = none := by
    rw [List.lookup_eq_none_iff]
    rintro ⟨key, opposite⟩ hmem
    simp only [bne_iff_ne, ne_eq]
    rintro rfl
    exact h (List.mem_map_of_mem hmem)
  simp [negateOperator, unknown]

/-- Negation undoes itself, also on the operators that it leaves alone. -/
@[simp] theorem negateOperator_negateOperator (operator : String) :
    negateOperator (negateOperator operator) = operator := by
  by_cases h : operator ∈ negations.map Prod.fst
  · simp only [negations, List.map_cons, List.map_nil, List.mem_cons, List.not_mem_nil,
      or_false] at h
    rcases h with rfl | rfl | rfl | rfl | rfl | rfl | rfl | rfl | rfl | rfl | rfl | rfl <;> decide
  · rw [negateOperator_of_not_mem h, negateOperator_of_not_mem h]

@[simp] theorem negate_negate (c : Condition) : c.negate.negate = c := by
  simp [negate]

/-- An opposite has an opposite, differs from it, and exactly one is affirmative. -/
theorem IsNegatable.opposite {c : Condition} (h : c.IsNegatable) :
    c.negate.IsNegatable ∧ c.negate ≠ c ∧ (c.negate.IsAffirmative ↔ ¬c.IsAffirmative) := by
  obtain ⟨field, operator, value⟩ := c
  simp only [IsNegatable, negations, List.map_cons, List.map_nil, List.mem_cons,
    List.not_mem_nil, or_false] at h
  simp only [IsNegatable, IsAffirmative, negate, ne_eq, mk.injEq]
  rcases h with rfl | rfl | rfl | rfl | rfl | rfl | rfl | rfl | rfl | rfl | rfl | rfl <;> decide

end Condition

/-- A truth value for every single condition, under which opposite operators never
agree on the same field and operand. -/
def Respects (truth : Condition → Prop) : Prop :=
  ∀ c : Condition, c.IsNegatable → (truth c.negate ↔ ¬truth c)

/-- All conditions of a guard hold. -/
def Passes (truth : Condition → Prop) (guard : List Condition) : Prop :=
  ∀ c ∈ guard, truth c

/-- The assignment that holds on the affirmative conditions, except that it holds
on one given condition and fails on another. -/
def separating (c c' : Condition) (x : Condition) : Prop :=
  x = c ∨ x ≠ c.negate ∧ x ≠ c' ∧ (x = c'.negate ∨ x.IsAffirmative)

theorem respects_affirmative : Respects Condition.IsAffirmative :=
  fun _ h => h.opposite.2.2

theorem respects_separating {c c' : Condition} (hc : c.IsNegatable) (hc' : c'.IsNegatable) :
    Respects (separating c c') := by
  intro x hx
  have swap : ∀ y : Condition, x.negate = y ↔ x = y.negate := fun y =>
    ⟨fun h => by rw [← h, Condition.negate_negate], fun h => by rw [h, Condition.negate_negate]⟩
  simp only [separating, ne_eq, swap, Condition.negate_negate, hx.opposite.2.2]
  have hself := hc.opposite.2.1
  have hself' := hc'.opposite.2.1
  -- Outside the two given pairs of opposites the assignment is the affirmative one.
  by_cases h₁ : x = c
  · simp [h₁, hself.symm]
  · by_cases h₂ : x = c.negate
    · simp [h₂, hself]
    · by_cases h₃ : x = c'
      · simp [← h₃, h₁, h₂, h₃ ▸ hself'.symm]
      · by_cases h₄ : x = c'.negate
        · subst h₄
          simp [h₁, h₂, h₃]
        · simp [h₁, h₂, h₃, h₄]

/-- Two different conditions can be told apart by an assignment that respects
opposites. -/
theorem exists_separating {c c' : Condition} (hc : c.IsNegatable) (hc' : c'.IsNegatable)
    (hne : c ≠ c') : ∃ truth, Respects truth ∧ truth c ∧ ¬truth c' := by
  refine ⟨separating c c', respects_separating hc hc', Or.inl rfl, ?_⟩
  rintro (h | ⟨_, h, _⟩)
  · exact hne h.symm
  · exact h rfl

namespace ConditionData

variable {d : ConditionData} {truth : Condition → Prop}

/-- The decision of a condition node: any of its conditions is enough, or all of them
are needed. -/
def Decides (d : ConditionData) (truth : Condition → Prop) : Prop :=
  if d.logic = "any" then ∃ c ∈ d.conditions, truth c else ∀ c ∈ d.conditions, truth c

/-- The conditions of a node are all the same one. -/
def IsUniform (d : ConditionData) : Prop :=
  ∀ c ∈ d.conditions, ∀ c' ∈ d.conditions, c = c'

/-- The guard of a yes branch holds exactly when the decision is positive. -/
def YesFollows (d : ConditionData) : Prop :=
  ∀ truth, Respects truth → ∀ key ∈ yesBranches,
    (Passes truth (d.branchGuard (some key)) ↔ d.Decides truth)

/-- The guard of a no branch holds exactly when the decision is negative. -/
def NoFollows (d : ConditionData) : Prop :=
  ∀ truth, Respects truth → ∀ key ∈ noBranches,
    (Passes truth (d.branchGuard (some key)) ↔ ¬d.Decides truth)

/-- A ticket passes exactly one of a yes branch and a no branch. -/
def Separates (d : ConditionData) : Prop :=
  ∀ truth, Respects truth → ∀ yes ∈ yesBranches, ∀ no ∈ noBranches,
    (Passes truth (d.branchGuard (some yes)) ↔ ¬Passes truth (d.branchGuard (some no)))

theorem branchGuard_yes {key : String} (h : key ∈ yesBranches) :
    d.branchGuard (some key) = d.conditions := by
  simp [branchGuard, h]

theorem branchGuard_no {key : String} (h : key ∈ noBranches) :
    d.branchGuard (some key) = d.conditions.map Condition.negate := by
  have other : key ∉ yesBranches := by
    simp only [noBranches, List.mem_cons, List.not_mem_nil, or_false] at h
    rcases h with rfl | rfl <;> decide
  simp [branchGuard, other, h]

/-- A yes branch tests that all conditions hold, whatever the node decides by. -/
theorem passes_yes {key : String} (h : key ∈ yesBranches) :
    Passes truth (d.branchGuard (some key)) ↔ ∀ c ∈ d.conditions, truth c := by
  rw [branchGuard_yes h, Passes]

/-- A no branch tests that no condition holds, whatever the node decides by. -/
theorem passes_no {key : String} (respects : Respects truth)
    (negatable : ∀ c ∈ d.conditions, c.IsNegatable) (h : key ∈ noBranches) :
    Passes truth (d.branchGuard (some key)) ↔ ∀ c ∈ d.conditions, ¬truth c := by
  rw [branchGuard_no h, Passes, List.forall_mem_map]
  constructor
  · intro all c hc
    exact (respects c (negatable c hc)).mp (all c hc)
  · intro none c hc
    exact (respects c (negatable c hc)).mpr (none c hc)

/-- On the same condition over and over, all and any are the same. -/
theorem IsUniform.all_iff_any (h : d.IsUniform) (nonempty : d.conditions ≠ []) :
    (∀ c ∈ d.conditions, truth c) ↔ ∃ c ∈ d.conditions, truth c := by
  obtain ⟨c₀, hc₀⟩ := List.exists_mem_of_ne_nil _ nonempty
  constructor
  · intro all
    exact ⟨c₀, hc₀, all c₀ hc₀⟩
  · rintro ⟨c, hc, holds⟩ c' hc'
    exact h c hc c' hc' ▸ holds

/-- Under every respectful assignment all and any agree only on a uniform list. -/
theorem isUniform_of_any_imp_all (negatable : ∀ c ∈ d.conditions, c.IsNegatable)
    (h : ∀ truth, Respects truth → (∃ c ∈ d.conditions, truth c) → ∀ c ∈ d.conditions, truth c) :
    d.IsUniform := by
  intro c hc c' hc'
  by_contra hne
  obtain ⟨truth, respects, holds, fails⟩ :=
    exists_separating (negatable c hc) (negatable c' hc') hne
  exact fails (h truth respects ⟨c, hc, holds⟩ c' hc')

theorem yesFollows_iff (nonempty : d.conditions ≠ [])
    (negatable : ∀ c ∈ d.conditions, c.IsNegatable) :
    d.YesFollows ↔ d.logic ≠ "any" ∨ d.IsUniform := by
  constructor
  · intro follows
    by_cases hlogic : d.logic = "any"
    · refine Or.inr (isUniform_of_any_imp_all negatable fun truth respects any => ?_)
      have := follows truth respects "yes" (by decide)
      rw [passes_yes (by decide), Decides, if_pos hlogic] at this
      exact this.mpr any
    · exact Or.inl hlogic
  · intro h truth _ key hkey
    rw [passes_yes hkey, Decides]
    split
    · rename_i hlogic
      exact (h.resolve_left (not_not_intro hlogic)).all_iff_any nonempty
    · exact Iff.rfl

theorem noFollows_iff (nonempty : d.conditions ≠ [])
    (negatable : ∀ c ∈ d.conditions, c.IsNegatable) :
    d.NoFollows ↔ d.logic = "any" ∨ d.IsUniform := by
  constructor
  · intro follows
    by_cases hlogic : d.logic = "any"
    · exact Or.inl hlogic
    · refine Or.inr (isUniform_of_any_imp_all negatable fun truth respects any => ?_)
      have := follows truth respects "no" (by decide)
      rw [passes_no respects negatable (by decide), Decides, if_neg hlogic] at this
      by_contra notAll
      obtain ⟨c, hc, holds⟩ := any
      exact this.mpr notAll c hc holds
  · intro h truth respects key hkey
    rw [passes_no respects negatable hkey, Decides]
    split
    · simp
    · rename_i hlogic
      rw [(h.resolve_left hlogic).all_iff_any nonempty]
      simp

theorem separates_iff (nonempty : d.conditions ≠ [])
    (negatable : ∀ c ∈ d.conditions, c.IsNegatable) : d.Separates ↔ d.IsUniform := by
  constructor
  · intro separates
    refine isUniform_of_any_imp_all negatable fun truth respects any => ?_
    have := separates truth respects "yes" (by decide) "no" (by decide)
    rw [passes_yes (by decide), passes_no respects negatable (by decide)] at this
    refine this.mpr fun none => ?_
    obtain ⟨c, hc, holds⟩ := any
    exact none c hc holds
  · intro uniform truth respects yes hyes no hno
    rw [passes_yes hyes, passes_no respects negatable hno, uniform.all_iff_any nonempty]
    simp

end ConditionData

/-- A transition that leaves a condition node has an ordinary rule. It tests the tag of the
node, then the guard of its branch, then the conditions of the transition. -/
theorem Workflow.exists_transitionRule_of_condition {w : Workflow} {t : Transition}
    {source target : Node} {d : ConditionData} (hsource : w.nodes.get? t.source = some source)
    (htarget : w.nodes.get? t.target = some target) (hd : source.data = .condition d) :
    w.isEntryTransition t = false ∧ ∃ r, w.transitionRule t = .ok (some r) ∧
      r.id = Rule.makeId w.id ("t-" ++ t.id) ∧
      r.conditions =
        .standsAt w.id source.id :: d.branchGuard t.branchKey ++ t.conditions := by
  have ordinary : w.isEntryTransition t = false :=
    isEntryTransition_of_not_trigger hsource (by rw [hd]; rfl)
  have guard : source.data.exitGuard t.branchKey = .ok (d.branchGuard t.branchKey) := by
    rw [hd]
    rfl
  exact ⟨ordinary, _, transitionRule_eq_some.mpr ⟨source, target, _, hsource, htarget, guard, rfl⟩,
    rfl, rfl⟩

/-- That rule is one of the compiled ones. -/
theorem Workflow.exists_branch_rule {w : Workflow} {rules : List Rule}
    (h : w.compile = .ok rules) {t : Transition} (ht : t ∈ w.transitions)
    {source target : Node} {d : ConditionData} (hsource : w.nodes.get? t.source = some source)
    (htarget : w.nodes.get? t.target = some target) (hd : source.data = .condition d) :
    ∃ r ∈ rules, r.id = Rule.makeId w.id ("t-" ++ t.id) ∧
      r.conditions =
        .standsAt w.id source.id :: d.branchGuard t.branchKey ++ t.conditions := by
  obtain ⟨ordinary, r, compiled, tests⟩ :=
    exists_transitionRule_of_condition hsource htarget hd
  exact ⟨r, (mem_compile h).mpr (.inr (.inl ⟨t, ht, ordinary, compiled⟩)), tests⟩

namespace ConditionData

/-- What the guards of a condition node test, and when that is its decision. A yes
branch tests that all conditions hold and a no branch that none does. The first is
the decision of a node that needs all conditions, the second its negation for a node
that needs any, and for the other kind only when the conditions are all the same; only
then does each ticket pass exactly one of the two. The rules of the branches carry
these guards between the tag of the node and the conditions of the transition. -/
theorem branches_follow_decision_iff (d : ConditionData) (nonempty : d.conditions ≠ [])
    (negatable : ∀ c ∈ d.conditions, c.IsNegatable) :
    (∀ truth, Respects truth →
      (∀ key ∈ yesBranches,
        (Passes truth (d.branchGuard (some key)) ↔ ∀ c ∈ d.conditions, truth c)) ∧
      (∀ key ∈ noBranches,
        (Passes truth (d.branchGuard (some key)) ↔ ∀ c ∈ d.conditions, ¬truth c))) ∧
    (d.YesFollows ↔ d.logic ≠ "any" ∨ d.IsUniform) ∧
    (d.NoFollows ↔ d.logic = "any" ∨ d.IsUniform) ∧
    (d.Separates ↔ d.IsUniform) ∧
    (∀ (w : Workflow) (rules : List Rule), w.compile = .ok rules → ∀ t ∈ w.transitions,
      ∀ source target, w.nodes.get? t.source = some source →
        w.nodes.get? t.target = some target → source.data = .condition d →
        ∃ r ∈ rules, r.id = Rule.makeId w.id ("t-" ++ t.id) ∧
          r.conditions =
            .standsAt w.id source.id :: d.branchGuard t.branchKey ++ t.conditions) := by
  refine ⟨?tests, yesFollows_iff nonempty negatable, noFollows_iff nonempty negatable,
    separates_iff nonempty negatable, ?rules⟩
  case tests =>
    intro truth respects
    exact ⟨fun _ h => passes_yes h, fun _ h => passes_no respects negatable h⟩
  case rules =>
    intro w rules compiles t ht source target hsource htarget hd
    exact Workflow.exists_branch_rule compiles ht hsource htarget hd

/-- An urgent ticket that came by phone, and no other one. -/
def urgentByPhone : ConditionData :=
  ⟨"all", [⟨"priority", "is", .string "urgent"⟩, ⟨"channel", "equals", .string "phone"⟩]⟩

/-- A node that needs two conditions has the right yes branch but not the right no
branch: a ticket that meets one of the two passes neither. -/
theorem urgentByPhone_branches : urgentByPhone.conditions ≠ [] ∧
    (∀ c ∈ urgentByPhone.conditions, c.IsNegatable) ∧
    urgentByPhone.YesFollows ∧ ¬urgentByPhone.NoFollows ∧ ¬urgentByPhone.Separates := by
  have nonempty : urgentByPhone.conditions ≠ [] := by simp [urgentByPhone]
  have negatable : ∀ c ∈ urgentByPhone.conditions, c.IsNegatable := by
    simp [urgentByPhone, Condition.IsNegatable, Condition.negations]
  have mixed : ¬urgentByPhone.IsUniform := by
    simp [urgentByPhone, IsUniform]
  obtain ⟨_, yes, no, separates, _⟩ :=
    branches_follow_decision_iff urgentByPhone nonempty negatable
  refine ⟨nonempty, negatable, yes.mpr (Or.inl (by decide)), ?_, mt separates.mp mixed⟩
  exact mt no.mp (not_or.mpr ⟨by decide, mixed⟩)

/-- An open ticket, or one that is not. -/
def openOrNot : ConditionData :=
  ⟨"any", [⟨"status", "is", .string "open"⟩, ⟨"status", "is_not", .string "open"⟩]⟩

/-- The decision over a condition and its opposite is always positive, but the yes
branch tests both and lets no ticket pass. -/
theorem openOrNot_yes_does_not_follow : openOrNot.conditions ≠ [] ∧
    (∀ c ∈ openOrNot.conditions, c.IsNegatable) ∧
    ¬(openOrNot.YesFollows ∧ openOrNot.NoFollows) ∧
    ∀ truth, Respects truth → openOrNot.Decides truth ∧
      ∀ key ∈ yesBranches, ¬Passes truth (openOrNot.branchGuard (some key)) := by
  have negatable : ∀ c ∈ openOrNot.conditions, c.IsNegatable := by
    simp [openOrNot, Condition.IsNegatable, Condition.negations]
  have stuck : ∀ truth, Respects truth → openOrNot.Decides truth ∧
      ∀ key ∈ yesBranches, ¬Passes truth (openOrNot.branchGuard (some key)) := by
    intro truth respects
    have opposite : truth ⟨"status", "is_not", .string "open"⟩ ↔
        ¬truth ⟨"status", "is", .string "open"⟩ :=
      respects ⟨"status", "is", .string "open"⟩ (negatable _ List.mem_cons_self)
    refine ⟨?_, fun key hkey => ?_⟩
    · simp [Decides, openOrNot, opposite, em]
    · rw [passes_yes hkey]
      simp [openOrNot, opposite]
  refine ⟨by simp [openOrNot], negatable, ?_, stuck⟩
  rintro ⟨yes, _⟩
  obtain ⟨decides, blocked⟩ := stuck _ respects_affirmative
  exact blocked "yes" (by decide) ((yes _ respects_affirmative "yes" (by decide)).mpr decides)

end ConditionData

end TicketFlow
