import TicketFlow.Proofs.Rule.Origin
import TicketFlow.Template

/-!
# What rules do to tickets

The actions of compiled rules are those that stand on transitions, those that states run
when tickets enter, and those that the compiler adds to move and to escalate tickets. In a
workflow of which all references resolve nothing else is run, and none of these is lost.
Nodes may carry actions, too, but these are run only if they also stand elsewhere.
-/

namespace TicketFlow.Workflow

open Fallible

variable {w : Workflow} {rules : List Rule} {r : Rule} {t : Transition} {a : Action}

/-- The action stands on a transition, or a state runs it when a ticket enters. -/
def WrittenToRun (w : Workflow) (a : Action) : Prop :=
  (∃ t ∈ w.transitions, a ∈ t.actions) ∨
    ∃ n ∈ w.nodes.values, ∃ d, n.data = .state d ∧ a ∈ d.onEnterActions

/-- The action is one that the compiler adds: it moves tickets to the target of a transition,
away from the source of one by which they do not enter, or past the deadline of a state. -/
inductive Adds (w : Workflow) : Action → Prop
  | enter {t : Transition} {target : Node} (mem : t ∈ w.transitions)
      (found : w.nodes.get? t.target = some target) : Adds w (.enter w.id target.id)
  | leave {t : Transition} {source : Node} (mem : t ∈ w.transitions)
      (inside : w.isEntryTransition t = false) (found : w.nodes.get? t.source = some source) :
      Adds w (.leave w.id source.id)
  | escalate {n : Node} {d : StateData} (mem : n ∈ w.nodes.values) (state : n.data = .state d)
      (deadline : d.hasDeadline = true) : Adds w .escalate

theorem Adds.kind_mem (h : w.Adds a) :
    a.kind ∈ ["add_tag", "remove_tag", "escalate"] := by
  cases h <;> simp [Action.enter, Action.leave, Action.escalate]

/-! ## Nothing else is run -/

theorem mem_actions_entryRules (hr : r ∈ w.entryRules) (ha : a ∈ r.actions) :
    w.WrittenToRun a ∨ w.Adds a := by
  obtain ⟨trigger, -, t, ht, -, rule⟩ := mem_entryRules.mp hr
  obtain ⟨target, found, rfl⟩ := entryRule_eq_some.mp rule
  rcases List.mem_append.mp ha with ha | ha
  · exact .inl (.inl ⟨t, ht, ha⟩)
  · rw [List.mem_singleton.mp ha]
    exact .inr (.enter ht found)

theorem mem_actions_transitionRule (ht : t ∈ w.transitions)
    (inside : w.isEntryTransition t = false) (rule : w.transitionRule t = .ok (some r))
    (ha : a ∈ r.actions) : w.WrittenToRun a ∨ w.Adds a := by
  obtain ⟨source, target, guard, atSource, atTarget, -, rfl⟩ := transitionRule_eq_some.mp rule
  rcases List.mem_append.mp ha with ha | ha
  · exact .inl (.inl ⟨t, ht, ha⟩)
  · rcases List.mem_pair.mp ha with rfl | rfl
    · exact .inr (.leave ht inside atSource)
    · exact .inr (.enter ht atTarget)

theorem mem_actions_nodeRules {n : Node} (hn : n ∈ w.nodes.values) {found : List Rule}
    (h : w.nodeRules n = .ok found) (hr : r ∈ found) (ha : a ∈ r.actions) :
    w.WrittenToRun a ∨ w.Adds a := by
  obtain ⟨d, state, arrival | ⟨late, hlate, deadline⟩⟩ := (mem_nodeRules h).mp hr
  · obtain ⟨-, rfl⟩ := mem_enterRule.mp arrival
    exact .inl (.inr ⟨n, hn, d, state, ha⟩)
  · obtain ⟨minutes, hours, set, positive, -, rfl⟩ := (mem_deadlineRule hlate).mp deadline
    have timed : d.hasDeadline = true := by simp [StateData.hasDeadline, set, positive]
    rw [List.mem_singleton.mp ha]
    exact .inr (.escalate hn state timed)

/-! ## Nothing of it is lost -/

/-- A transition has a rule that runs its actions and moves tickets along it. -/
theorem exists_rule_of_transition (h : w.compile = .ok rules) (ht : t ∈ w.transitions)
    {source target : Node} (atSource : w.nodes.get? t.source = some source)
    (atTarget : w.nodes.get? t.target = some target) :
    ∃ r ∈ rules, (∀ a ∈ t.actions, a ∈ r.actions) ∧ .enter w.id target.id ∈ r.actions ∧
      (w.isEntryTransition t = false → .leave w.id source.id ∈ r.actions) := by
  cases entry : w.isEntryTransition t with
  | true =>
      obtain ⟨⟨trigger, htrigger⟩, atEntry⟩ := isEntryTransition_eq_true.mp entry
      have rule : w.entryRule trigger t = some _ := entryRule_eq_some.mpr ⟨target, atTarget, rfl⟩
      refine ⟨_, (mem_compile h).mpr (.inl (mem_entryRules.mpr
        ⟨trigger, htrigger, t, ht, atEntry, rule⟩)), ?_, ?_, ?_⟩
      · exact fun a ha => List.mem_append_left _ ha
      · exact List.mem_append_right _ (List.mem_singleton_self _)
      · exact fun inside => absurd inside Bool.noConfusion
  | false =>
      obtain ⟨moves, -⟩ := exists_compile_eq_ok.mp ⟨rules, h⟩
      obtain ⟨rule?, hrule⟩ := moves t ht entry
      have there : rule?.isSome = true := by
        rw [isSome_of_transitionRule hrule, ← Table.isSome_get?, ← Table.isSome_get?, atSource,
          atTarget]
        rfl
      obtain ⟨r, rfl⟩ := Option.isSome_iff_exists.mp there
      refine ⟨r, (mem_compile h).mpr (.inr (.inl ⟨t, ht, entry, hrule⟩)), ?_⟩
      obtain ⟨source', target', guard, hs, ht', -, rfl⟩ := transitionRule_eq_some.mp hrule
      cases atSource.symm.trans hs
      cases atTarget.symm.trans ht'
      refine ⟨fun a ha => List.mem_append_left _ ha, ?_, fun _ => ?_⟩
      · exact List.mem_append_right _ (List.mem_pair.mpr (.inr rfl))
      · exact List.mem_append_right _ (List.mem_pair.mpr (.inl rfl))

/-- A state that has something to do when a ticket enters has a rule that does it. -/
theorem exists_rule_of_arrival (h : w.compile = .ok rules) {n : Node} (hn : n ∈ w.nodes.values)
    {d : StateData} (state : n.data = .state d) (ha : a ∈ d.onEnterActions) :
    ∃ r ∈ rules, a ∈ r.actions := by
  obtain ⟨found, hfound, sub⟩ := exists_nodeRules h hn
  have rule : _ ∈ w.enterRule n.id d := mem_enterRule.mpr ⟨List.ne_nil_of_mem ha, rfl⟩
  exact ⟨_, sub _ ((mem_nodeRules hfound).mpr ⟨d, state, .inl rule⟩), ha⟩

/-- A state with a deadline has a rule that escalates. -/
theorem exists_rule_of_deadline (h : w.compile = .ok rules) {n : Node}
    (hn : n ∈ w.nodes.values) {d : StateData} (state : n.data = .state d)
    (deadline : d.hasDeadline = true) : ∃ r ∈ rules, .escalate ∈ r.actions := by
  obtain ⟨found, hfound, sub⟩ := exists_nodeRules h hn
  have ofState := hfound
  rw [nodeRules, NodeData.state?_eq_some.mpr state] at ofState
  obtain ⟨late, hlate, -⟩ := map_eq_ok.mp ofState
  obtain ⟨r, rfl⟩ := exists_of_deadlineRule deadline hlate
  have only : r ∈ [r] := List.mem_singleton_self r
  refine ⟨r, sub r ((mem_nodeRules hfound).mpr ⟨d, state, .inr ⟨[r], hlate, only⟩⟩), ?_⟩
  obtain ⟨minutes, hours, -, -, -, rfl⟩ := (mem_deadlineRule hlate).mp only
  exact List.mem_singleton_self _

/-- The actions of compiled rules. With all references resolved, a rule runs an action
exactly if it stands on a transition, if a state runs it when a ticket enters, or if it is
one of those that the compiler adds. So no action of a transition or of entering a state
is lost, and an action that a node carries is run only if it is also one of these. -/
theorem mem_actions_compile_iff (resolve : w.ReferencesResolve) (h : w.compile = .ok rules)
    (a : Action) : (∃ r ∈ rules, a ∈ r.actions) ↔ w.WrittenToRun a ∨ w.Adds a := by
  constructor
  case mp =>
    intro ⟨r, hr, ha⟩
    rcases (mem_compile h).mp hr with entry | ⟨t, ht, inside, rule⟩ | ⟨n, hn, found, hfound, hr⟩
    · exact mem_actions_entryRules entry ha
    · exact mem_actions_transitionRule ht inside rule ha
    · exact mem_actions_nodeRules hn hfound hr ha
  case mpr =>
    have along : ∀ t ∈ w.transitions, ∃ source target, w.nodes.get? t.source = some source ∧
        w.nodes.get? t.target = some target := by
      intro t ht
      obtain ⟨source, atSource⟩ := Table.mem_keys_iff.mp (resolve t ht).1
      obtain ⟨target, atTarget⟩ := Table.mem_keys_iff.mp (resolve t ht).2
      exact ⟨source, target, atSource, atTarget⟩
    rintro ((⟨t, ht, ha⟩ | ⟨n, hn, d, state, ha⟩) | added)
    · obtain ⟨source, target, atSource, atTarget⟩ := along t ht
      obtain ⟨r, hr, run, -⟩ := exists_rule_of_transition h ht atSource atTarget
      exact ⟨r, hr, run a ha⟩
    · exact exists_rule_of_arrival h hn state ha
    · cases added with
      | @enter t target ht atTarget =>
          obtain ⟨source, _, atSource, -⟩ := along t ht
          obtain ⟨r, hr, -, enter, -⟩ := exists_rule_of_transition h ht atSource atTarget
          exact ⟨r, hr, enter⟩
      | @leave t source ht inside atSource =>
          obtain ⟨_, target, -, atTarget⟩ := along t ht
          obtain ⟨r, hr, -, -, leave⟩ := exists_rule_of_transition h ht atSource atTarget
          exact ⟨r, hr, leave inside⟩
      | escalate hn state deadline => exact exists_rule_of_deadline h hn state deadline

/-- Tickets come by a relay, which is to notify someone, into a state that asks them to be
opened; on the way there they get a tag. -/
def relayed : Workflow :=
  { sample "wf" "room" with
    nodes := ⟨[("door", sampleDoor "room"),
      ("relay", ⟨"relay", .action ⟨[⟨"send_notification", .null, []⟩]⟩, ⟨0, 70⟩⟩),
      ("room", ⟨"room", .state { sampleState with onEnterActions :=
        [⟨"set_status", .string "open", []⟩] }, ⟨0, 140⟩⟩)], by decide⟩
    transitions := [.plain "in" "door" "relay" none,
      { Transition.plain "on" "relay" "room" none with
        actions := [⟨"add_tag", .string "fresh", []⟩] }]
    entryId := "door" }

/-- Of the actions in the relay, the state and the transition between them, only those of the
relay are lost. -/
theorem relayed_mem_actions : relayed.ReferencesResolve ∧ ∃ rules, relayed.compile = .ok rules ∧
    (∃ r ∈ rules, ⟨"add_tag", .string "fresh", []⟩ ∈ r.actions) ∧
    (∃ r ∈ rules, ⟨"set_status", .string "open", []⟩ ∈ r.actions) ∧
    ¬∃ r ∈ rules, ⟨"send_notification", .null, []⟩ ∈ r.actions := by
  have resolve : relayed.ReferencesResolve := by
    simp [ReferencesResolve, relayed, Transition.plain, Table.keys]
  obtain ⟨rules, h⟩ : ∃ rules, relayed.compile = .ok rules := ⟨_, rfl⟩
  have actions := mem_actions_compile_iff resolve h
  refine ⟨resolve, rules, h, (actions _).mpr (.inl (.inl ?_)), (actions _).mpr (.inl (.inr ?_)),
    mt (actions _).mp ?_⟩
  · simp [relayed]
  · simp [relayed, Table.values]
  · rintro ((written | written) | added)
    · simp [relayed, Transition.plain] at written
    · simp [relayed, Table.values, sampleDoor] at written
    · exact absurd added.kind_mem (by decide)

/-- The template that is to give urgent tickets an urgent priority at once. -/
def pipeline : Workflow :=
  Template.escalationPipeline.instantiate (.ofList [] (stemmedId "gen-")) none

/-- All of its references resolve, and a transition leads to the node that is to set the
priority, but no rule does. -/
theorem pipeline_loses_action : pipeline.EntryResolves ∧ pipeline.ReferencesResolve ∧
    ∃ rules, pipeline.compile = .ok rules ∧ ∃ t ∈ pipeline.transitions, ∃ n d,
      pipeline.nodes.get? t.target = some n ∧ n.data = .action d ∧
        ∃ a ∈ d.actions, ∀ r ∈ rules, a ∉ r.actions := by
  have kinds : (pipeline.compile.toOption.map fun rules => rules.all fun r =>
      r.actions.all fun a => a.kind != "set_priority") = some true := by decide +kernel
  obtain ⟨rules, h⟩ : ∃ rules, pipeline.compile = .ok rules := ⟨_, rfl⟩
  have entry : pipeline.EntryResolves := by
    unfold EntryResolves
    decide +kernel
  have resolve : pipeline.ReferencesResolve := by
    unfold ReferencesResolve
    decide +kernel
  refine ⟨entry, resolve, rules, h, _, List.mem_of_getElem? (i := 1) rfl, _, _, rfl, rfl, _,
    List.mem_cons_self, fun r hr ha => ?_⟩
  have other : ∀ r ∈ rules, ∀ a ∈ r.actions, a.kind ≠ "set_priority" := by
    simpa [h, Except.toOption] using kinds
  exact other r hr _ ha rfl

end TicketFlow.Workflow
