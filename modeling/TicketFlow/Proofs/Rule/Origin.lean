import TicketFlow.Proofs.Rule.Ownership
import TicketFlow.Proofs.Workflow.Issues
import TicketFlow.Repair.Deadline

/-!
# Where rules come from

What a workflow is to have rules for can be read off its graph: the transitions by
which tickets enter, those by which they move, and the states with actions on entering
or with a deadline. Compiling gives one rule for each of these origins, in their order,
and the origin determines the rule. A transition is left out exactly when the issues of
the workflow say that one of its ends is unknown.
-/

namespace TicketFlow

open Fallible

/-- What a rule is compiled from. States are named by their keys. -/
inductive Origin where
  /-- A transition that leaves the trigger at the entry. -/
  | entry (t : Transition)
  /-- Any other transition. -/
  | move (t : Transition)
  /-- A state with actions on entering. -/
  | arrival (key : String)
  /-- A state with a deadline. -/
  | deadline (key : String)

namespace Origin

/-- The family of the rule with an origin. -/
def family : Origin → String
  | .entry _ => "entry-"
  | .move _ => "t-"
  | .arrival _ => "enter-"
  | .deadline _ => "sla-"

/-- The free text in the id of the rule with an origin. -/
def name : Origin → String
  | .entry t => t.id
  | .move t => t.id
  | .arrival key => key
  | .deadline key => key

/-- The id of the rule with an origin. -/
def ruleId (workflowId : String) (o : Origin) : String :=
  Rule.makeId workflowId (o.family ++ o.name)

theorem family_mem (o : Origin) : o.family ∈ Rule.families := by
  cases o <;> simp [family, Rule.families]

end Origin

namespace Workflow

variable {w : Workflow} {rules : List Rule} {r : Rule} {t : Transition}

/-! ## Origins -/

/-- Tickets enter by the transitions that leave the trigger at the entry, if these lead
somewhere. -/
def entersBy (w : Workflow) (t : Transition) : Bool :=
  w.isEntryTransition t && w.nodes.contains t.target

/-- Tickets move by all other transitions of which both ends resolve. -/
def movesBy (w : Workflow) (t : Transition) : Bool :=
  !w.isEntryTransition t && (w.nodes.contains t.source && w.nodes.contains t.target)

/-- What the node under a key is to have rules for. -/
def stateOrigins (key : String) (n : Node) : List Origin :=
  match n.data.state? with
  | some d =>
    (if d.onEnterActions.isEmpty then [] else [.arrival key]) ++
      if d.hasDeadline then [.deadline key] else []
  | none => []

/-- The origins of the rules of a workflow. -/
def origins (w : Workflow) : List Origin :=
  (w.transitions.filter w.entersBy).map .entry ++
    (w.transitions.filter w.movesBy).map .move ++
    w.nodes.entries.flatMap fun e => stateOrigins e.1 e.2

/-- The payload of the state under a key. -/
def stateAt? (w : Workflow) (key : String) : Option StateData :=
  (w.nodes.get? key).bind (·.data.state?)

/-- The rule with an origin. -/
def IsRuleOf (w : Workflow) : Origin → Rule → Prop
  | .entry t, r => ∃ trigger, w.entryTrigger? = some trigger ∧ w.entryRule trigger t = some r
  | .move t, r => w.transitionRule t = .ok (some r)
  | .arrival key, r => ∃ d, w.stateAt? key = some d ∧ w.enterRule key d = [r]
  | .deadline key, r => ∃ d, w.stateAt? key = some d ∧ w.deadlineRule key d = .ok [r]

theorem isEntryTransition_eq_true : w.isEntryTransition t = true ↔
    (∃ trigger, w.entryTrigger? = some trigger) ∧ t.source = w.entryId := by
  rw [isEntryTransition, Bool.and_eq_true, beq_iff_eq, Option.isSome_iff_exists]

/-- A trigger at the entry is a node under the key of the entry. -/
theorem source_mem_of_isEntryTransition (h : w.isEntryTransition t = true) :
    t.source ∈ w.nodes.keys := by
  obtain ⟨⟨trigger, htrigger⟩, source⟩ := isEntryTransition_eq_true.mp h
  obtain ⟨-, n, hn, -⟩ := entryTrigger?_eq_some.mp htrigger
  rw [source]
  exact Table.mem_keys_iff.mpr ⟨n, hn⟩

theorem entersBy_eq_true : w.entersBy t = true ↔
    w.isEntryTransition t = true ∧ t.target ∈ w.nodes.keys := by
  rw [entersBy, Bool.and_eq_true, Table.contains_iff]

theorem movesBy_eq_true : w.movesBy t = true ↔
    w.isEntryTransition t = false ∧ t.source ∈ w.nodes.keys ∧ t.target ∈ w.nodes.keys := by
  rw [movesBy, Bool.and_eq_true, Bool.and_eq_true, Bool.not_eq_true', Table.contains_iff,
    Table.contains_iff]

theorem mem_stateOrigins {key : String} {n : Node} {o : Origin} :
    o ∈ stateOrigins key n ↔ ∃ d, n.data = .state d ∧
      (d.onEnterActions ≠ [] ∧ o = .arrival key ∨ d.hasDeadline = true ∧ o = .deadline key) := by
  rw [stateOrigins]
  cases h : n.data.state? with
  | none =>
      have other : ∀ d, n.data ≠ .state d := fun d hd => by
        simp [hd, NodeData.state?] at h
      simp [other]
  | some d =>
      rw [NodeData.state?_eq_some] at h
      simp [h]

theorem mem_origins {o : Origin} : o ∈ w.origins ↔
    (∃ t ∈ w.transitions, w.entersBy t = true ∧ o = .entry t) ∨
    (∃ t ∈ w.transitions, w.movesBy t = true ∧ o = .move t) ∨
    ∃ e ∈ w.nodes.entries, o ∈ stateOrigins e.1 e.2 := by
  rw [origins, List.mem_append, List.mem_append, or_assoc, List.mem_flatMap]
  simp only [List.mem_map, List.mem_filter, and_assoc, eq_comm]

theorem entry_mem_origins : Origin.entry t ∈ w.origins ↔
    t ∈ w.transitions ∧ w.entersBy t = true := by
  simp [mem_origins, mem_stateOrigins]

theorem move_mem_origins : Origin.move t ∈ w.origins ↔
    t ∈ w.transitions ∧ w.movesBy t = true := by
  simp [mem_origins, mem_stateOrigins]

/-! ## One rule for each origin -/

theorem stateAt?_of_mem {key : String} {n : Node} {d : StateData}
    (mem : (key, n) ∈ w.nodes.entries) (hd : n.data = .state d) : w.stateAt? key = some d := by
  rw [stateAt?, Table.get?_eq_some_iff.mpr mem, Option.bind_some, NodeData.state?_eq_some, hd]

/-- A traversal that may come to nothing on an item: what remains comes of the items on
which it does not. -/
theorem forall₂_filterMap {α β : Type} {R : α → Option β → Prop} {p : α → Bool}
    (h : ∀ a b?, R a b? → b?.isSome = p a) {l : List α} {found : List (Option β)}
    (related : List.Forall₂ R l found) :
    List.Forall₂ (fun a b => R a (some b)) (l.filter p) (found.filterMap fun b? => b?) := by
  induction related with
  | nil => exact .nil
  | @cons a b? _ _ hab _ ih =>
      have defined := h a b? hab
      cases b? with
      | none => simpa [← defined] using ih
      | some b => simpa [← defined] using ⟨hab, ih⟩

theorem isSome_entryRule (w : Workflow) (trigger : TriggerData) (t : Transition) :
    (w.entryRule trigger t).isSome = w.nodes.contains t.target := by
  rw [entryRule, Option.isSome_map, Table.isSome_get?]

/-- Only a transition with an unknown end comes to nothing. -/
theorem isSome_of_transitionRule {rule? : Option Rule} (h : w.transitionRule t = .ok rule?) :
    rule?.isSome = (w.nodes.contains t.source && w.nodes.contains t.target) := by
  rw [transitionRule] at h
  rw [← Table.isSome_get?, ← Table.isSome_get?]
  cases hs : w.nodes.get? t.source with
  | none =>
      simp only [hs, Except.ok.injEq] at h
      simp [← h]
  | some source =>
      cases ht : w.nodes.get? t.target with
      | none =>
          simp only [hs, ht, Except.ok.injEq] at h
          simp [← h]
      | some target =>
          simp only [hs, ht] at h
          obtain ⟨r, -, rfl⟩ := map_eq_ok.mp h
          rfl

theorem forall₂_entryRules (w : Workflow) :
    List.Forall₂ w.IsRuleOf ((w.transitions.filter w.entersBy).map .entry) w.entryRules := by
  rw [List.forall₂_map_left_iff, entryRules]
  cases htrigger : w.entryTrigger? with
  | none =>
      have none : ∀ t ∈ w.transitions, ¬w.entersBy t = true := by
        intro t _ enters
        obtain ⟨⟨trigger, h⟩, -⟩ := isEntryTransition_eq_true.mp (entersBy_eq_true.mp enters).1
        rw [htrigger] at h
        cases h
      rw [List.filter_eq_nil_iff.mpr none]
      exact .nil
  | some trigger =>
      have same : w.transitions.filter w.entersBy =
          (w.outgoing w.entryId).filter fun t => w.nodes.contains t.target := by
        rw [outgoing, List.filter_filter]
        apply List.filter_congr
        intro t _
        simp [entersBy, isEntryTransition, htrigger, Bool.and_comm]
      have found : List.Forall₂ (fun t rule? => w.entryRule trigger t = rule?)
          (w.outgoing w.entryId) ((w.outgoing w.entryId).map (w.entryRule trigger)) := by
        rw [List.forall₂_map_right_iff, List.forall₂_same]
        exact fun _ _ => rfl
      have rules := forall₂_filterMap (p := fun t => w.nodes.contains t.target)
        (fun t rule? h => h ▸ isSome_entryRule w trigger t) found
      rw [List.filterMap_map] at rules
      rw [same]
      exact rules.imp fun t r h => ⟨trigger, htrigger, h⟩

theorem forall₂_moveRules {moves : List Rule} (h : w.moveRules = .ok moves) :
    List.Forall₂ w.IsRuleOf ((w.transitions.filter w.movesBy).map .move) moves := by
  obtain ⟨found, hfound, rfl⟩ := map_eq_ok.mp h
  have same : w.transitions.filter w.movesBy =
      (w.transitions.filter fun t => !w.isEntryTransition t).filter
        fun t => w.nodes.contains t.source && w.nodes.contains t.target := by
    rw [List.filter_filter]
    apply List.filter_congr
    intro t _
    rw [movesBy, Bool.and_comm]
  rw [List.forall₂_map_left_iff, same]
  apply forall₂_filterMap (R := fun t rule? => w.transitionRule t = .ok rule?)
  · exact fun t rule? found => isSome_of_transitionRule found
  · exact mapM_eq_ok.mp hfound

theorem forall₂_enterRule {key : String} {d : StateData} (state : w.stateAt? key = some d) :
    List.Forall₂ w.IsRuleOf (if d.onEnterActions.isEmpty then [] else [.arrival key])
      (w.enterRule key d) := by
  rw [enterRule]
  split
  case isTrue => exact .nil
  case isFalse silent => exact .cons ⟨d, state, by rw [enterRule, if_neg silent]⟩ .nil

theorem deadlineRule_of_not_hasDeadline {key : String} {d : StateData}
    (h : d.hasDeadline = false) : w.deadlineRule key d = .ok [] := by
  rw [deadlineRule]
  cases hminutes : d.slaMinutes with
  | none => rfl
  | some minutes =>
      have zero : minutes.isZero = true := by
        simpa [StateData.hasDeadline, hminutes] using h
      simp [zero]

theorem exists_of_deadlineRule {key : String} {d : StateData} {late : List Rule}
    (deadline : d.hasDeadline = true) (h : w.deadlineRule key d = .ok late) :
    ∃ r, late = [r] := by
  rw [deadlineRule] at h
  cases hminutes : d.slaMinutes with
  | none => simp [StateData.hasDeadline, hminutes] at deadline
  | some minutes =>
      have positive : minutes.isZero = false := by
        simpa [StateData.hasDeadline, hminutes] using deadline
      simp only [hminutes, positive, Bool.false_eq_true, if_false] at h
      obtain ⟨hours, -, rfl⟩ := map_eq_ok.mp h
      exact ⟨_, rfl⟩

theorem forall₂_deadlineRule {key : String} {d : StateData} (state : w.stateAt? key = some d)
    {late : List Rule} (h : w.deadlineRule key d = .ok late) :
    List.Forall₂ w.IsRuleOf (if d.hasDeadline then [.deadline key] else []) late := by
  cases deadline : d.hasDeadline with
  | true =>
      obtain ⟨r, rfl⟩ := exists_of_deadlineRule deadline h
      exact .cons ⟨d, state, h⟩ .nil
  | false =>
      rw [deadlineRule_of_not_hasDeadline deadline, Except.ok.injEq] at h
      rw [← h]
      exact .nil

/-- The rules of a node, one for each of its origins. -/
theorem forall₂_nodeRules (keyed : w.KeyedById) {e : String × Node}
    (mem : e ∈ w.nodes.entries) {found : List Rule} (h : w.nodeRules e.2 = .ok found) :
    List.Forall₂ w.IsRuleOf (stateOrigins e.1 e.2) found := by
  have id : e.2.id = e.1 := keyed e mem
  rw [nodeRules] at h
  rw [stateOrigins]
  cases hstate : e.2.data.state? with
  | none =>
      simp only [hstate, Except.ok.injEq] at h
      rw [← h]
      exact .nil
  | some d =>
      simp only [hstate, id] at h
      obtain ⟨late, hlate, rfl⟩ := map_eq_ok.mp h
      have state : w.stateAt? e.1 = some d :=
        stateAt?_of_mem mem (NodeData.state?_eq_some.mp hstate)
      exact List.rel_append (forall₂_enterRule state) (forall₂_deadlineRule state hlate)

theorem forall₂_stateRules (keyed : w.KeyedById) {states : List Rule}
    (h : w.stateRules = .ok states) :
    List.Forall₂ w.IsRuleOf (w.nodes.entries.flatMap fun e => stateOrigins e.1 e.2) states := by
  obtain ⟨lists, hlists, rfl⟩ := map_eq_ok.mp h
  rw [mapM_eq_ok, Table.values, List.forall₂_map_left_iff] at hlists
  have both := (List.forall₂_and_left _ _).mpr
    ⟨fun e (mem : e ∈ w.nodes.entries) => mem, hlists⟩
  have each : List.Forall₂ (List.Forall₂ w.IsRuleOf)
      (w.nodes.entries.map fun e => stateOrigins e.1 e.2) lists := by
    rw [List.forall₂_map_left_iff]
    exact both.imp fun e found h => forall₂_nodeRules keyed h.1 h.2
  rw [List.flatMap_def]
  exact List.rel_flatten each

/-- A compiled workflow has one rule for each origin, in the order of the origins. -/
theorem forall₂_origins (keyed : w.KeyedById) (h : w.compile = .ok rules) :
    List.Forall₂ w.IsRuleOf w.origins rules := by
  obtain ⟨moves, states, hmoves, hstates, rfl⟩ := compile_eq_ok.mp h
  have entered := List.rel_append (forall₂_entryRules w) (forall₂_moveRules hmoves)
  exact List.rel_append entered (forall₂_stateRules keyed hstates)

/-- The origin determines the rule. -/
theorem IsRuleOf.unique {o : Origin} {r' : Rule} (h : w.IsRuleOf o r) (h' : w.IsRuleOf o r') :
    r = r' := by
  cases o with
  | entry t =>
      obtain ⟨trigger, htrigger, hrule⟩ := h
      obtain ⟨trigger', htrigger', hrule'⟩ := h'
      cases htrigger.symm.trans htrigger'
      exact Option.some.inj (hrule.symm.trans hrule')
  | move t =>
      have same := Except.ok.inj (Eq.trans (Eq.symm h) h')
      exact Option.some.inj same
  | arrival key =>
      obtain ⟨d, state, hrule⟩ := h
      obtain ⟨d', state', hrule'⟩ := h'
      cases state.symm.trans state'
      exact List.singleton_inj.mp (hrule.symm.trans hrule')
  | deadline key =>
      obtain ⟨d, state, hrule⟩ := h
      obtain ⟨d', state', hrule'⟩ := h'
      cases state.symm.trans state'
      exact List.singleton_inj.mp (Except.ok.inj (hrule.symm.trans hrule'))

/-- The rule on entering a state. -/
theorem IsRuleOf.eq_of_arrival {key : String} (h : w.IsRuleOf (.arrival key) r) :
    ∃ d, w.stateAt? key = some d ∧ r = w.rule ("enter-" ++ key) .trigger ("Enter " ++ d.label)
      [.standsAt w.id key] d.onEnterActions := by
  obtain ⟨d, state, hrule⟩ := h
  have mem : r ∈ w.enterRule key d := hrule ▸ List.mem_singleton_self r
  exact ⟨d, state, (mem_enterRule.mp mem).2⟩

/-- The rule on the deadline of a state. -/
theorem IsRuleOf.eq_of_deadline {key : String} (h : w.IsRuleOf (.deadline key) r) :
    ∃ d hours, w.stateAt? key = some d ∧ r = w.rule ("sla-" ++ key) .sla
      ("SLA breach for " ++ d.label) [.standsAt w.id key, .idleFor hours] [.escalate] := by
  obtain ⟨d, state, hrule⟩ := h
  obtain ⟨_, hours, -, -, -, same⟩ := (mem_deadlineRule hrule).mp (List.mem_singleton_self r)
  exact ⟨d, hours, state, same⟩

/-- The id of a rule is read off its origin. -/
theorem IsRuleOf.id_eq {o : Origin} (h : w.IsRuleOf o r) : r.id = o.ruleId w.id := by
  cases o with
  | entry t =>
      obtain ⟨trigger, -, hrule⟩ := h
      obtain ⟨target, -, rfl⟩ := entryRule_eq_some.mp hrule
      rfl
  | move t =>
      obtain ⟨source, target, guard, -, -, -, rfl⟩ := transitionRule_eq_some.mp h
      rfl
  | arrival key =>
      obtain ⟨d, -, rfl⟩ := h.eq_of_arrival
      rfl
  | deadline key =>
      obtain ⟨d, hours, -, rfl⟩ := h.eq_of_deadline
      rfl

/-! ## Transitions without a rule -/

theorem not_entersBy_and_movesBy : ¬(w.entersBy t = true ∧ w.movesBy t = true) := by
  intro ⟨enters, moves⟩
  have entry := (entersBy_eq_true.mp enters).1
  rw [(movesBy_eq_true.mp moves).1] at entry
  cases entry

/-- A transition is no origin exactly when one of its ends is unknown. -/
theorem entersBy_or_movesBy_iff : w.entersBy t = true ∨ w.movesBy t = true ↔
    t.source ∈ w.nodes.keys ∧ t.target ∈ w.nodes.keys := by
  rw [entersBy_eq_true, movesBy_eq_true]
  cases entry : w.isEntryTransition t with
  | true => simp [source_mem_of_isEntryTransition entry]
  | false => simp

theorem mem_errors_of_mem_referenceIssues (ht : t ∈ w.transitions) {issue : Issue}
    (h : issue ∈ w.referenceIssues t) : issue ∈ w.errors := by
  apply List.mem_filter.mpr
  constructor
  · exact mem_issues.mpr (.inr (.inl ⟨t, ht, h⟩))
  · rcases mem_referenceIssues.mp h with ⟨-, rfl⟩ | ⟨-, rfl⟩ <;> rfl

/-- Compiling is complete and exact. With nodes under their own ids there is one rule for
each origin, in their order: the transitions by which tickets enter, of which there are
none without a trigger at the entry, the others of which both ends resolve, and for each
state a rule on entering and one on its deadline, if it has them. No transition gives two
rules, and those that give none are those of which the issues say that an end is unknown.
So a valid workflow loses no transition, and has an entry rule if its entry is a trigger. -/
theorem compile_exact (keyed : w.KeyedById) (h : w.compile = .ok rules) :
    (List.Forall₂ w.IsRuleOf w.origins rules ∧
      rules.map Rule.id = w.origins.map (Origin.ruleId w.id)) ∧
    (w.entryTrigger? = none → ∀ t, w.entersBy t = false) ∧
    (∀ t ∈ w.transitions, ¬(w.entersBy t = true ∧ w.movesBy t = true) ∧
      (w.entersBy t = false ∧ w.movesBy t = false ↔
        .unknownSource t ∈ w.referenceIssues t ∨ .unknownTarget t ∈ w.referenceIssues t) ∧
      ∀ issue ∈ w.referenceIssues t, issue ∈ w.errors) ∧
    (w.isValid = true → (∀ t ∈ w.transitions, w.entersBy t = true ∨ w.movesBy t = true) ∧
      (w.entryTrigger?.isSome = true → ∃ t ∈ w.transitions, w.entersBy t = true ∧
        ∃ r ∈ rules, w.IsRuleOf (.entry t) r)) := by
  have related := forall₂_origins keyed h
  refine ⟨⟨related, ?ids⟩, ?noTrigger, ?leftOut, ?valid⟩
  case ids =>
    have ids : List.Forall₂ (· = ·) (w.origins.map (Origin.ruleId w.id)) (rules.map Rule.id) := by
      rw [List.forall₂_map_left_iff, List.forall₂_map_right_iff]
      exact related.imp fun o r hr => hr.id_eq.symm
    rw [List.forall₂_eq_eq_eq] at ids
    exact ids.symm
  case noTrigger =>
    intro none t
    simp [entersBy, isEntryTransition, none]
  case leftOut =>
    intro t ht
    refine ⟨not_entersBy_and_movesBy, ?_, fun issue => mem_errors_of_mem_referenceIssues ht⟩
    rw [← Bool.not_eq_true, ← Bool.not_eq_true, ← not_or, entersBy_or_movesBy_iff,
      mem_referenceIssues, mem_referenceIssues]
    by_cases source : t.source ∈ w.nodes.keys <;> by_cases target : t.target ∈ w.nodes.keys <;>
      simp [source, target]
  case valid =>
    intro valid
    obtain ⟨-, references, -, exits⟩ := isValid_eq_true_iff.mp valid
    have known : ∀ t ∈ w.transitions, w.entersBy t = true ∨ w.movesBy t = true :=
      fun t ht => entersBy_or_movesBy_iff.mpr (references t ht)
    refine ⟨known, fun trigger => ?_⟩
    obtain ⟨t, exit⟩ := List.exists_mem_of_ne_nil _ (exits trigger)
    obtain ⟨ht, source⟩ := List.mem_filter.mp exit
    have entry : w.isEntryTransition t = true :=
      Bool.and_eq_true_iff.mpr ⟨trigger, source⟩
    have enters : w.entersBy t = true :=
      entersBy_eq_true.mpr ⟨entry, (references t ht).2⟩
    have origin : Origin.entry t ∈ w.origins := entry_mem_origins.mpr ⟨ht, enters⟩
    obtain ⟨r, hr, rule⟩ := exists_right_of_mem related origin
    exact ⟨t, ht, enters, r, hr, rule⟩

/-- A room that tickets enter and can stay in, and two transitions that lead nowhere. -/
def torn : Workflow :=
  { sample "wf" "room" with
    transitions := [.plain "in" "room-door" "room" none, .plain "stay" "room" "room" none,
      .plain "in" "room-door" "gone" none, .plain "out" "room" "gone" none] }

/-- The two transitions to an unknown key have no rule, although one of them has the id of
a transition that has one. -/
theorem torn_compile_exact : torn.KeyedById ∧ ∃ rules, torn.compile = .ok rules ∧
    rules.map Rule.id =
      ["wf-wf-entry-in", "wf-wf-t-stay", "wf-wf-enter-room", "wf-wf-sla-room"] := by
  have keyed : torn.KeyedById := by simp [KeyedById, torn, sample, sampleDoor]
  refine ⟨keyed, _, rfl, ?_⟩
  rw [(compile_exact keyed rfl).1.2]
  decide

end Workflow

end TicketFlow
