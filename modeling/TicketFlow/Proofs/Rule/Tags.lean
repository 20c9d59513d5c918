import TicketFlow.Proofs.Rule.Origin

/-!
# Tickets under the rules of a workflow

Rules know nothing of graphs: they see the tags of a ticket. When authored actions keep
away from the state tags of the workflow, the tags follow the graph. A ticket that an
entry rule let in carries one state tag, that of the node where it stands. The rule of a
transition asks for the tag of its source and moves the ticket to its target, and the
rules of states leave it where it is.
-/

namespace TicketFlow

/-- A state tag of the workflow with an id, of whatever node. -/
def IsStateTag (workflowId : String) (tag : Value) : Prop :=
  ∃ nodeId, tag = .string (stateTag workflowId nodeId)

/-- The state tags of a workflow among the tags of a ticket. -/
def stateTags (workflowId : String) (tags : Set Value) : Set Value :=
  {tag ∈ tags | IsStateTag workflowId tag}

theorem stateTag_inj {workflowId nodeId nodeId' : String}
    (h : stateTag workflowId nodeId = stateTag workflowId nodeId') : nodeId = nodeId' :=
  (String.append_right_inj _).mp h

theorem isStateTag_stateTag (workflowId nodeId : String) :
    IsStateTag workflowId (.string (stateTag workflowId nodeId)) :=
  ⟨nodeId, rfl⟩

theorem mem_stateTags {workflowId : String} {tags : Set Value} {tag : Value} :
    tag ∈ stateTags workflowId tags ↔ tag ∈ tags ∧ IsStateTag workflowId tag :=
  Iff.rfl

namespace Condition

/-- Whether a condition on tags holds on a ticket with these tags. -/
def HoldsOn (tags : Set Value) (c : Condition) : Prop :=
  c.field = "tags" ∧ c.operator = "contains" ∧ c.value ∈ tags

theorem holdsOn_standsAt {workflowId nodeId : String} {tags : Set Value} :
    (standsAt workflowId nodeId).HoldsOn tags ↔
      .string (stateTag workflowId nodeId) ∈ stateTags workflowId tags := by
  simp [standsAt, HoldsOn, mem_stateTags, isStateTag_stateTag]

end Condition

namespace Action

/-- What an action makes of the tags of a ticket. -/
def onTags (tags : Set Value) (a : Action) : Set Value :=
  if a.kind = "add_tag" then insert a.value tags
  else if a.kind = "remove_tag" then tags \ {a.value}
  else tags

/-- The action does not touch the state tags of a workflow. -/
def Spares (workflowId : String) (a : Action) : Prop :=
  a.kind = "add_tag" ∨ a.kind = "remove_tag" → ¬IsStateTag workflowId a.value

variable {workflowId : String} {tags : Set Value}

theorem stateTags_of_spares {a : Action} (h : a.Spares workflowId) :
    stateTags workflowId (a.onTags tags) = stateTags workflowId tags := by
  ext tag
  rw [onTags, mem_stateTags, mem_stateTags]
  apply and_congr_left
  intro ours
  split
  case isTrue add =>
    have other : tag ≠ a.value := fun same => h (.inl add) (same ▸ ours)
    simp [other]
  case isFalse =>
    split
    case isTrue remove =>
      have other : tag ≠ a.value := fun same => h (.inr remove) (same ▸ ours)
      simp [other]
    case isFalse => rfl

theorem stateTags_enter (nodeId : String) :
    stateTags workflowId ((enter workflowId nodeId).onTags tags) =
      insert (.string (stateTag workflowId nodeId)) (stateTags workflowId tags) := by
  ext tag
  have ours := isStateTag_stateTag workflowId nodeId
  simp only [onTags, enter, if_true, mem_stateTags, Set.mem_insert_iff]
  constructor
  · intro ⟨mem, isTag⟩
    exact mem.imp_right fun mem => ⟨mem, isTag⟩
  · intro mem
    rcases mem with rfl | ⟨mem, isTag⟩
    · exact ⟨.inl rfl, ours⟩
    · exact ⟨.inr mem, isTag⟩

theorem stateTags_leave (nodeId : String) :
    stateTags workflowId ((leave workflowId nodeId).onTags tags) =
      stateTags workflowId tags \ {.string (stateTag workflowId nodeId)} := by
  ext tag
  have kind : ¬"remove_tag" = "add_tag" := by decide
  simp only [onTags, leave, if_neg kind, if_true, mem_stateTags, Set.mem_sdiff]
  exact and_right_comm

theorem spares_escalate : escalate.Spares workflowId := by
  intro touches
  simp [escalate] at touches

end Action

namespace Rule

/-- The tags of a ticket after the actions of a rule, in their order. -/
def onTags (r : Rule) (tags : Set Value) : Set Value :=
  r.actions.foldl Action.onTags tags

/-- The generated guard of a rule, which is its first condition, holds on a ticket with
these tags. -/
def Admits (r : Rule) (tags : Set Value) : Prop :=
  ∃ guard, r.conditions.head? = some guard ∧ guard.HoldsOn tags

/-- The id of a rule names a family of rules of a workflow. -/
def InFamily (workflowId family : String) (r : Rule) : Prop :=
  ∃ name, r.id = makeId workflowId (family ++ name)

theorem stateTags_foldl {workflowId : String} {actions : List Action} {tags : Set Value}
    (h : ∀ a ∈ actions, a.Spares workflowId) :
    stateTags workflowId (actions.foldl Action.onTags tags) = stateTags workflowId tags := by
  induction actions generalizing tags with
  | nil => rfl
  | cons a actions ih =>
      obtain ⟨spares, rest⟩ := List.forall_mem_cons.mp h
      rw [List.foldl_cons, ih rest, Action.stateTags_of_spares spares]

end Rule

namespace Origin

/-- The node whose tag the rule with an origin asks for. An entry rule asks for none. -/
def place? : Origin → Option String
  | .entry _ => none
  | .move t => some t.source
  | .arrival key => some key
  | .deadline key => some key

end Origin

namespace Workflow

variable {w : Workflow} {rules : List Rule} {r : Rule} {t : Transition} {tags : Set Value}
variable {o : Origin} {key : String}

/-- The actions that the author of a workflow wrote do not touch its state tags. -/
structure AuthoredApart (w : Workflow) : Prop where
  transitions : ∀ t ∈ w.transitions, ∀ a ∈ t.actions, a.Spares w.id
  states : ∀ n ∈ w.nodes.values, ∀ d, n.data = .state d → ∀ a ∈ d.onEnterActions, a.Spares w.id

/-- A ticket with these tags stands at a node: it carries the tag of this node, and no
other state tag of the workflow. -/
def StandsAt (w : Workflow) (key : String) (tags : Set Value) : Prop :=
  key ∈ w.nodes.keys ∧ stateTags w.id tags = {.string (stateTag w.id key)}

/-- Where a ticket comes to stand when a rule fires: at the target of a transition that
leaves the node where it stood, or where it was, if the rule is not that of a transition. -/
inductive Step (w : Workflow) : String → Rule → String → Prop
  | move {t : Transition} {r : Rule} (mem : t ∈ w.transitions) (rule : w.IsRuleOf (.move t) r) :
      Step w t.source r t.target
  | stay {r : Rule} (key : String) (other : ¬r.InFamily w.id "t-") : Step w key r key

/-- The walk of a ticket on which a list of rules fires: at each point it stands at a
node, and each rule takes it one step. -/
inductive Walk (w : Workflow) : String → Set Value → List Rule → String → Prop
  | done {key : String} {tags : Set Value} (stands : w.StandsAt key tags) :
      Walk w key tags [] key
  | step {key next last : String} {tags : Set Value} {r : Rule} {rest : List Rule}
      (stands : w.StandsAt key tags) (first : w.Step key r next)
      (walk : Walk w next (r.onTags tags) rest last) : Walk w key tags (r :: rest) last

/-- A ticket inside the workflow: one after another, rules fire that are not entry rules
and whose guard on its tags holds. -/
inductive Fires (w : Workflow) (rules : List Rule) : Set Value → List Rule → Set Value → Prop
  | done (tags : Set Value) : Fires w rules tags [] tags
  | step {tags final : Set Value} {r : Rule} {rest : List Rule} (mem : r ∈ rules)
      (inside : ¬r.InFamily w.id "entry-") (admits : r.Admits tags)
      (run : Fires w rules (r.onTags tags) rest final) : Fires w rules tags (r :: rest) final

/-- The family of a rule is that of its origin. -/
theorem IsRuleOf.inFamily_iff (h : w.IsRuleOf o r) {family : String}
    (mem : family ∈ Rule.families) : r.InFamily w.id family ↔ o.family = family := by
  constructor
  · intro ⟨name, id⟩
    exact (Rule.makeId_inj o.family_mem mem (h.id_eq.symm.trans id)).1
  · intro same
    exact ⟨o.name, by rw [h.id_eq, Origin.ruleId, same]⟩

/-! ## Guards -/

theorem id_of_get? (keyed : w.KeyedById) {n : Node} (h : w.nodes.get? key = some n) :
    n.id = key :=
  keyed _ (Table.get?_eq_some_iff.mp h)

/-- The rule of a transition by which tickets enter. With nodes under their own ids it puts
the tag of the target on a ticket. -/
theorem IsRuleOf.eq_of_entry (keyed : w.KeyedById) (h : w.IsRuleOf (.entry t) r) :
    ∃ trigger target, w.entryTrigger? = some trigger ∧ w.nodes.get? t.target = some target ∧
      r = w.rule ("entry-" ++ t.id) .trigger ("Entry → " ++ target.label)
        ((if trigger.event = "" then [] else [.onEvent trigger.event]) ++
          trigger.conditions ++ t.conditions)
        (t.actions ++ [.enter w.id t.target]) := by
  obtain ⟨trigger, htrigger, hrule⟩ := h
  obtain ⟨target, htarget, rfl⟩ := entryRule_eq_some.mp hrule
  exact ⟨trigger, target, htrigger, htarget, by rw [id_of_get? keyed htarget]⟩

/-- The rule of a transition by which tickets move. With nodes under their own ids it asks
for the tag of the source and exchanges it for that of the target. -/
theorem IsRuleOf.eq_of_move (keyed : w.KeyedById) (h : w.IsRuleOf (.move t) r) :
    ∃ source target guard, w.nodes.get? t.source = some source ∧
      w.nodes.get? t.target = some target ∧ source.data.exitGuard t.branchKey = .ok guard ∧
      r = w.rule ("t-" ++ t.id) source.data.exitKind (source.label ++ " → " ++ target.label)
        (.standsAt w.id t.source :: guard ++ t.conditions)
        (t.actions ++ [.leave w.id t.source, .enter w.id t.target]) := by
  obtain ⟨source, target, guard, hsource, htarget, hguard, rfl⟩ := transitionRule_eq_some.mp h
  exact ⟨source, target, guard, hsource, htarget, hguard,
    by rw [id_of_get? keyed hsource, id_of_get? keyed htarget]⟩

/-- The first condition of a rule asks for the tag of its place. -/
theorem IsRuleOf.head?_conditions (keyed : w.KeyedById) (h : w.IsRuleOf o r)
    (place : o.place? = some key) : r.conditions.head? = some (.standsAt w.id key) := by
  cases o with
  | entry t => cases place
  | move t =>
      cases place
      obtain ⟨_, _, _, -, -, -, rfl⟩ := h.eq_of_move keyed
      rfl
  | arrival key =>
      cases place
      obtain ⟨d, -, rfl⟩ := h.eq_of_arrival
      rfl
  | deadline key =>
      cases place
      obtain ⟨d, hours, -, rfl⟩ := h.eq_of_deadline
      rfl

/-- The guard of a rule holds on the tickets that stand at its place. -/
theorem IsRuleOf.admits_iff (keyed : w.KeyedById) (h : w.IsRuleOf o r) {place : String}
    (hplace : o.place? = some place) (stands : w.StandsAt key tags) :
    r.Admits tags ↔ place = key := by
  have guard : r.Admits tags ↔ (Condition.standsAt w.id place).HoldsOn tags := by
    simp [Rule.Admits, h.head?_conditions keyed hplace]
  rw [guard, Condition.holdsOn_standsAt, stands.2, Set.mem_singleton_iff, Value.string.injEq]
  constructor
  · exact stateTag_inj
  · exact fun same => same ▸ rfl

/-! ## Effects -/

theorem stateTags_entry (keyed : w.KeyedById) (apart : w.AuthoredApart)
    (ht : t ∈ w.transitions) (h : w.IsRuleOf (.entry t) r) :
    stateTags w.id (r.onTags tags) =
      insert (.string (stateTag w.id t.target)) (stateTags w.id tags) := by
  obtain ⟨_, _, -, -, rfl⟩ := h.eq_of_entry keyed
  rw [Rule.onTags, rule, List.foldl_append, List.foldl_cons, List.foldl_nil,
    Action.stateTags_enter, Rule.stateTags_foldl (apart.transitions t ht)]

theorem stateTags_move (keyed : w.KeyedById) (apart : w.AuthoredApart)
    (ht : t ∈ w.transitions) (h : w.IsRuleOf (.move t) r) :
    stateTags w.id (r.onTags tags) = insert (.string (stateTag w.id t.target))
      (stateTags w.id tags \ {.string (stateTag w.id t.source)}) := by
  obtain ⟨_, _, _, -, -, -, rfl⟩ := h.eq_of_move keyed
  rw [Rule.onTags, rule, List.foldl_append, List.foldl_cons, List.foldl_cons, List.foldl_nil,
    Action.stateTags_enter, Action.stateTags_leave,
    Rule.stateTags_foldl (apart.transitions t ht)]

theorem stateTags_arrival (apart : w.AuthoredApart) (h : w.IsRuleOf (.arrival key) r) :
    stateTags w.id (r.onTags tags) = stateTags w.id tags := by
  obtain ⟨d, state, rfl⟩ := h.eq_of_arrival
  obtain ⟨n, hn, hd⟩ := Option.bind_eq_some_iff.mp state
  have value : n ∈ w.nodes.values := Table.mem_values_iff.mpr ⟨key, Table.get?_eq_some_iff.mp hn⟩
  exact Rule.stateTags_foldl (apart.states n value d (NodeData.state?_eq_some.mp hd))

theorem stateTags_deadline (h : w.IsRuleOf (.deadline key) r) :
    stateTags w.id (r.onTags tags) = stateTags w.id tags := by
  obtain ⟨d, hours, -, rfl⟩ := h.eq_of_deadline
  exact Action.stateTags_of_spares Action.spares_escalate

/-! ## Runs -/

/-- A ticket without a state tag that an entry rule lets in stands at the target. -/
theorem standsAt_of_entry (keyed : w.KeyedById) (apart : w.AuthoredApart)
    (ht : t ∈ w.transitions) (enters : w.entersBy t = true) (h : w.IsRuleOf (.entry t) r)
    (unplaced : stateTags w.id tags = ∅) : w.StandsAt t.target (r.onTags tags) := by
  constructor
  · exact (entersBy_eq_true.mp enters).2
  · rw [stateTags_entry keyed apart ht h, unplaced, insert_empty_eq]

/-- One rule that fires on a ticket takes it one step through the graph. -/
theorem exists_step (keyed : w.KeyedById) (apart : w.AuthoredApart) (mem : o ∈ w.origins)
    (h : w.IsRuleOf o r) (inside : ¬r.InFamily w.id "entry-") (stands : w.StandsAt key tags)
    (admits : r.Admits tags) :
    ∃ next, w.Step key r next ∧ w.StandsAt next (r.onTags tags) := by
  have family : ∀ family ∈ Rule.families, r.InFamily w.id family ↔ o.family = family :=
    fun _ => h.inFamily_iff
  -- A rule that is not that of a transition and leaves the state tags alone is a pause.
  have pause : o.family ≠ "t-" → stateTags w.id (r.onTags tags) = stateTags w.id tags →
      ∃ next, w.Step key r next ∧ w.StandsAt next (r.onTags tags) := by
    intro other same
    exact ⟨key, .stay key (mt (family "t-" (by decide)).mp other), stands.1, same.trans stands.2⟩
  cases o with
  | entry t => exact absurd ((family "entry-" (by decide)).mpr rfl) inside
  | move t =>
      obtain ⟨ht, moves⟩ := move_mem_origins.mp mem
      obtain rfl : t.source = key := (h.admits_iff keyed rfl stands).mp admits
      refine ⟨t.target, .move ht h, (movesBy_eq_true.mp moves).2.2, ?_⟩
      rw [stateTags_move keyed apart ht h, stands.2, Set.sdiff_self]
      exact insert_empty_eq _
  | arrival place => exact pause (by simp [Origin.family]) (stateTags_arrival apart h)
  | deadline place => exact pause (by simp [Origin.family]) (stateTags_deadline h)

/-- Rules that fire on a ticket one after another take it on a walk. -/
theorem exists_walk (keyed : w.KeyedById) (apart : w.AuthoredApart) (h : w.compile = .ok rules)
    {fired : List Rule} {final : Set Value} (run : w.Fires rules tags fired final) :
    ∀ {key}, w.StandsAt key tags →
      ∃ last, w.Walk key tags fired last ∧ w.StandsAt last final := by
  induction run with
  | done tags =>
      intro key stands
      exact ⟨key, .done stands, stands⟩
  | step mem inside admits _ ih =>
      intro key stands
      obtain ⟨o, ho, rule⟩ := Fallible.exists_left_of_mem (forall₂_origins keyed h) mem
      obtain ⟨next, step, there⟩ := exists_step keyed apart ho rule inside stands admits
      obtain ⟨last, walk, final⟩ := ih there
      exact ⟨last, .step stands step walk, final⟩

/-- The tags of tickets follow the graph. Authored actions keep away from the state tags
of the workflow, and nodes stand under their own ids. A ticket without a state tag that an
entry rule lets in stands at the target of an entry transition. Whatever rules then fire
on it, each of them when its guard on the tags holds, they take it on a walk through the
graph: at each point the ticket carries the tag of the node where it stands and no other
one. Where the walk ends, the guard of the rule of a transition holds exactly if this is
the source. -/
theorem tags_follow_graph (keyed : w.KeyedById) (apart : w.AuthoredApart)
    (h : w.compile = .ok rules) (unplaced : stateTags w.id tags = ∅) {first : Rule}
    (mem : first ∈ rules) (entry : first.InFamily w.id "entry-") :
    ∃ t ∈ w.transitions, t.source = w.entryId ∧ w.IsRuleOf (.entry t) first ∧
      ∀ fired final, w.Fires rules (first.onTags tags) fired final →
        ∃ key, w.Walk t.target (first.onTags tags) fired key ∧ w.StandsAt key final ∧
          ∀ t' ∈ w.transitions, ∀ r, w.IsRuleOf (.move t') r →
            (r.Admits final ↔ t'.source = key) := by
  obtain ⟨o, ho, rule⟩ := Fallible.exists_left_of_mem (forall₂_origins keyed h) mem
  have family : o.family = "entry-" := (rule.inFamily_iff (by decide)).mp entry
  obtain ⟨t, ht, enters, rfl⟩ : ∃ t ∈ w.transitions, w.entersBy t = true ∧ o = .entry t := by
    cases o with
    | entry t =>
        obtain ⟨ht, enters⟩ := entry_mem_origins.mp ho
        exact ⟨t, ht, enters, rfl⟩
    | move t => simp [Origin.family] at family
    | arrival key => simp [Origin.family] at family
    | deadline key => simp [Origin.family] at family
  have source := (isEntryTransition_eq_true.mp (entersBy_eq_true.mp enters).1).2
  have stands := standsAt_of_entry keyed apart ht enters rule unplaced
  refine ⟨t, ht, source, rule, ?_⟩
  intro fired final run
  obtain ⟨key, walk, there⟩ := exists_walk keyed apart h run stands
  refine ⟨key, walk, there, ?_⟩
  intro t' _ r moved
  exact moved.admits_iff keyed rfl there

/-- A hall that tickets enter, and a room behind it where they can stay. -/
def corridor : Workflow :=
  { sample "wf" "hall" with
    nodes := ⟨[("hall-door", sampleDoor "hall"), ("hall", ⟨"hall", .state sampleState, ⟨0, 140⟩⟩),
      ("room", ⟨"room", .state sampleState, ⟨0, 280⟩⟩)], by decide⟩
    transitions := [.plain "in" "hall-door" "hall" none, .plain "on" "hall" "room" none,
      .plain "stay" "room" "room" none, .plain "back" "room" "hall" none] }

/-- A ticket comes into the hall, and the rule of the transition to the room fires on it. -/
theorem corridor_tags_follow_graph : corridor.KeyedById ∧ corridor.AuthoredApart ∧
    stateTags corridor.id ∅ = ∅ ∧ ∃ rules first moved, corridor.compile = .ok rules ∧
      first ∈ rules ∧ first.InFamily corridor.id "entry-" ∧
      corridor.StandsAt "hall" (first.onTags ∅) ∧
      corridor.Fires rules (first.onTags ∅) [moved] (moved.onTags (first.onTags ∅)) ∧
      corridor.StandsAt "room" (moved.onTags (first.onTags ∅)) := by
  have keyed : corridor.KeyedById := by simp [KeyedById, corridor, sampleDoor]
  have apart : corridor.AuthoredApart := by
    constructor
    · simp [corridor, Transition.plain]
    · simp [corridor, Table.values, sampleDoor, sampleState, Action.spares_escalate]
  have unplaced : stateTags corridor.id ∅ = ∅ := Set.sep_empty _
  obtain ⟨rules, h⟩ : ∃ rules, corridor.compile = .ok rules := ⟨_, rfl⟩
  have found : ∀ o ∈ corridor.origins, ∃ r ∈ rules, corridor.IsRuleOf o r :=
    fun o => Fallible.exists_right_of_mem (forall₂_origins keyed h)
  obtain ⟨first, mem, entry⟩ := found (.entry (.plain "in" "hall-door" "hall" none))
    (entry_mem_origins.mpr ⟨by simp [corridor], by decide⟩)
  obtain ⟨moved, mem', move⟩ := found (.move (.plain "on" "hall" "room" none))
    (move_mem_origins.mpr ⟨by simp [corridor], by decide⟩)
  have family : first.InFamily corridor.id "entry-" := (entry.inFamily_iff (by decide)).mpr rfl
  have inside : ¬moved.InFamily corridor.id "entry-" := by
    rw [move.inFamily_iff (by decide)]
    decide
  have leaves : ∀ key t, corridor.outgoing key = [t] →
      ∀ t' ∈ corridor.transitions, t'.source = key → t' = t := by
    intro key t only t' ht source
    have mem : t' ∈ corridor.outgoing key := List.mem_filter.mpr ⟨ht, beq_iff_eq.mpr source⟩
    rw [only] at mem
    exact List.mem_singleton.mp mem
  obtain ⟨t, ht, source, -, follows⟩ :=
    tags_follow_graph keyed apart h unplaced mem family
  obtain rfl := leaves _ _ rfl t ht source
  obtain ⟨_, ⟨hall⟩, -, guards⟩ := follows [] _ (.done _)
  have admits : moved.Admits (first.onTags ∅) :=
    (guards _ (by simp [corridor]) moved move).mpr rfl
  have run : corridor.Fires rules (first.onTags ∅) [moved] (moved.onTags (first.onTags ∅)) :=
    .step mem' inside admits (.done _)
  obtain ⟨room, walk, there, -⟩ := follows [moved] _ run
  refine ⟨keyed, apart, unplaced, rules, first, moved, h, mem, family, hall, run, ?_⟩
  generalize hkey : (Transition.plain "in" "hall-door" "hall" none).target = key at walk
  cases walk with
  | step _ first walk =>
      cases walk
      cases first with
      | move ht rule =>
          obtain rfl := leaves _ _ rfl _ ht hkey.symm
          exact there
      | stay key other => exact absurd ((move.inFamily_iff (by decide)).mpr rfl) other

end Workflow

end TicketFlow
