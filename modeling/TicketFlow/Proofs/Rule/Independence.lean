import TicketFlow.Proofs.Rule.Ownership
import TicketFlow.Proofs.Table

/-!
# Transitions are compiled independently

Whether a transition has a rule, and which, depends on the nodes and on the entry, never on
the other transitions. Compiling a workflow therefore comes to compiling each transition by
itself and the states by themselves. Only the order of the rules depends on all transitions,
because those by which tickets enter come first.
-/

namespace TicketFlow

open Fallible

/-- Put some rules into a list of rules, in one place. -/
def Rule.Inserts (new before after : List Rule) : Prop :=
  ∃ front back, before = front ++ back ∧ after = front ++ new ++ back

theorem Rule.Inserts.append_right {new before after : List Rule}
    (h : Rule.Inserts new before after) (rest : List Rule) :
    Rule.Inserts new (before ++ rest) (after ++ rest) := by
  obtain ⟨front, back, rfl, rfl⟩ := h
  exact ⟨front, back ++ rest, by simp, by simp⟩

/-- A rule with its switch set. -/
def Rule.switch (enabled : Bool) (r : Rule) : Rule :=
  { r with enabled }

namespace Workflow

variable (w : Workflow)

/-- The workflow with other transitions between its nodes. -/
def withTransitions (ts : List Transition) : Workflow :=
  { w with transitions := ts }

/-- The rule that a transition has by itself, if it has one. -/
def ruleOf? (t : Transition) : Option Rule :=
  if w.isEntryTransition t then w.entryTrigger?.bind fun trigger => w.entryRule trigger t
  else (w.transitionRule t).toOption.join

/-- Compiling the transition does not fail. -/
def CompilesAlone (t : Transition) : Prop :=
  w.isEntryTransition t = false → ∃ rule?, w.transitionRule t = .ok rule?

/-- The rules of some transitions, those by which tickets enter first. -/
def rulesOf (ts : List Transition) : List Rule :=
  (ts.filter w.isEntryTransition).filterMap w.ruleOf? ++
    (ts.filter fun t => !w.isEntryTransition t).filterMap w.ruleOf?

/-- The rules of all nodes, as far as they compile. -/
def rulesOfStates : List Rule :=
  w.nodes.values.flatMap fun n => (w.nodeRules n).toOption.getD []

variable {w} {rules : List Rule} {t : Transition}

/-! ## Compiling as a whole -/

theorem entryRules_eq (w : Workflow) :
    w.entryRules = (w.transitions.filter w.isEntryTransition).filterMap w.ruleOf? := by
  rw [entryRules]
  cases h : w.entryTrigger? with
  | none => simp [isEntryTransition, h]
  | some trigger =>
      have entries : w.outgoing w.entryId = w.transitions.filter w.isEntryTransition := by
        apply List.filter_congr
        intro t _
        simp [isEntryTransition, h]
      rw [entries]
      apply List.filterMap_congr
      intro t ht
      rw [ruleOf?, if_pos (List.mem_filter.mp ht).2, h, Option.bind_some]

theorem moveRules_eq {moves : List Rule} (h : w.moveRules = .ok moves) :
    moves = (w.transitions.filter fun t => !w.isEntryTransition t).filterMap w.ruleOf? := by
  obtain ⟨found, hfound, rfl⟩ := map_eq_ok.mp h
  have each := eq_map_of_mapM (g := fun t => (w.transitionRule t).toOption.join)
    (fun t rule? hrule => by rw [hrule]; rfl) hfound
  rw [each, List.filterMap_map]
  apply List.filterMap_congr
  intro t ht
  rw [ruleOf?, if_neg (by simpa using (List.mem_filter.mp ht).2)]
  rfl

theorem stateRules_eq {states : List Rule} (h : w.stateRules = .ok states) :
    states = w.rulesOfStates := by
  obtain ⟨lists, hlists, rfl⟩ := map_eq_ok.mp h
  have each := eq_map_of_mapM (g := fun n => (w.nodeRules n).toOption.getD [])
    (fun n found hfound => by rw [hfound]; rfl) hlists
  rw [rulesOfStates, List.flatMap_def, each]

/-- Compiling a workflow succeeds exactly when it does on each transition and each node by
themselves, and the rules are those that these have by themselves. -/
theorem compile_eq_ok_iff : w.compile = .ok rules ↔
    (∀ t ∈ w.transitions, w.CompilesAlone t) ∧
    (∀ n ∈ w.nodes.values, ∃ found, w.nodeRules n = .ok found) ∧
    rules = w.rulesOf w.transitions ++ w.rulesOfStates := by
  have whole : ∀ {rules}, w.compile = .ok rules →
      rules = w.rulesOf w.transitions ++ w.rulesOfStates := by
    intro rules h
    obtain ⟨moves, states, hmoves, hstates, rfl⟩ := compile_eq_ok.mp h
    rw [rulesOf, entryRules_eq, moveRules_eq hmoves, stateRules_eq hstates]
  constructor
  · intro h
    obtain ⟨transitions, nodes⟩ := exists_compile_eq_ok.mp ⟨rules, h⟩
    exact ⟨transitions, nodes, whole h⟩
  · rintro ⟨transitions, nodes, rfl⟩
    obtain ⟨rules, h⟩ := exists_compile_eq_ok.mpr ⟨transitions, nodes⟩
    rw [h, whole h]

/-- With other transitions, each of them still has the rule that it has by itself. -/
theorem compile_withTransitions (nodes : ∀ n ∈ w.nodes.values, ∃ found, w.nodeRules n = .ok found)
    {ts : List Transition} (alone : ∀ t ∈ ts, w.CompilesAlone t) :
    (w.withTransitions ts).compile = .ok (w.rulesOf ts ++ w.rulesOfStates) :=
  compile_eq_ok_iff.mpr ⟨alone, nodes, rfl⟩

/-! ## The rules of transitions -/

theorem rulesOf_singleton (w : Workflow) (t : Transition) :
    w.rulesOf [t] = (w.ruleOf? t).toList := by
  rw [rulesOf]
  cases entry : w.isEntryTransition t <;> cases rule : w.ruleOf? t <;> simp [entry, rule]

theorem perm_rulesOf (w : Workflow) (ts : List Transition) :
    (w.rulesOf ts).Perm (ts.filterMap w.ruleOf?) := by
  rw [rulesOf, ← List.filterMap_append]
  exact (List.filter_append_perm _ ts).filterMap _

/-- Among the rules of some transitions, that of each of them stands in one place. -/
theorem inserts_rulesOf (w : Workflow) (before : List Transition) (t : Transition)
    (after : List Transition) : Rule.Inserts (w.ruleOf? t).toList (w.rulesOf (before ++ after))
      (w.rulesOf (before ++ t :: after)) := by
  cases entry : w.isEntryTransition t with
  | true =>
      refine ⟨(before.filter w.isEntryTransition).filterMap w.ruleOf?,
        (after.filter w.isEntryTransition).filterMap w.ruleOf? ++
          ((before ++ after).filter fun t => !w.isEntryTransition t).filterMap w.ruleOf?, ?_, ?_⟩
      · simp [rulesOf]
      · cases rule : w.ruleOf? t <;> simp [rulesOf, entry, rule]
  | false =>
      refine ⟨((before ++ after).filter w.isEntryTransition).filterMap w.ruleOf? ++
          (before.filter fun t => !w.isEntryTransition t).filterMap w.ruleOf?,
        (after.filter fun t => !w.isEntryTransition t).filterMap w.ruleOf?, ?_, ?_⟩
      · simp [rulesOf]
      · cases rule : w.ruleOf? t <;> simp [rulesOf, entry, rule]

/-! ## One transition less or more -/

variable {before after : List Transition}

/-- Without one of the transitions its own rule is missing. -/
theorem exists_compile_without (h : w.compile = .ok rules)
    (parts : w.transitions = before ++ t :: after) :
    ∃ rules', (w.withTransitions (before ++ after)).compile = .ok rules' ∧
      Rule.Inserts (w.ruleOf? t).toList rules' rules := by
  obtain ⟨transitions, nodes, rfl⟩ := compile_eq_ok_iff.mp h
  rw [parts, List.forall_mem_append, List.forall_mem_cons] at transitions
  obtain ⟨front, -, back⟩ := transitions
  refine ⟨_, compile_withTransitions nodes (List.forall_mem_append.mpr ⟨front, back⟩), ?_⟩
  rw [parts]
  exact (inserts_rulesOf w before t after).append_right _

/-- With one more transition that compiles there is its own rule as well. -/
theorem exists_compile_with (h : w.compile = .ok rules) (parts : w.transitions = before ++ after)
    (single : w.CompilesAlone t) :
    ∃ rules', (w.withTransitions (before ++ t :: after)).compile = .ok rules' ∧
      Rule.Inserts (w.ruleOf? t).toList rules rules' := by
  obtain ⟨transitions, nodes, rfl⟩ := compile_eq_ok_iff.mp h
  rw [parts, List.forall_mem_append] at transitions
  obtain ⟨front, back⟩ := transitions
  have alone : ∀ u ∈ before ++ t :: after, w.CompilesAlone u :=
    List.forall_mem_append.mpr ⟨front, List.forall_mem_cons.mpr ⟨single, back⟩⟩
  refine ⟨_, compile_withTransitions nodes alone, ?_⟩
  rw [parts]
  exact (inserts_rulesOf w before t after).append_right _

/-- One more transition that does not compile makes the whole fail as it does alone. -/
theorem compile_with_error (h : w.compile = .ok rules) {e : CompileError}
    (fails : (w.withTransitions [t]).compile = .error e) :
    (w.withTransitions (before ++ t :: after)).compile = .error e := by
  cases together : (w.withTransitions (before ++ t :: after)).compile with
  | error e' =>
      cases e
      cases e'
      rfl
  | ok rules' =>
      obtain ⟨-, nodes, -⟩ := compile_eq_ok_iff.mp h
      obtain ⟨all, -, -⟩ := compile_eq_ok_iff.mp together
      have single : w.CompilesAlone t := all t (by simp [withTransitions])
      rw [compile_withTransitions nodes (by simpa using single)] at fails
      cases fails

/-! ## Other nodes and switches -/

/-- What is looked up in a table does not depend on the order of its entries. -/
theorem get?_eq_of_perm {α : Type} {nodes nodes' : Table α}
    (perm : nodes'.entries.Perm nodes.entries) : nodes'.get? = nodes.get? := by
  funext key
  apply Option.ext
  intro a
  rw [Table.get?_eq_some_iff, Table.get?_eq_some_iff, perm.mem_iff]

/-- Transitions are compiled by looking up nodes, wherever these are stored. -/
theorem transitions_eq_of_get?_eq {nodes : Table Node} (ts : List Transition)
    (lookup : nodes.get? = w.nodes.get?) :
    { w with nodes, transitions := ts }.isEntryTransition = w.isEntryTransition ∧
    { w with nodes, transitions := ts }.transitionRule = w.transitionRule ∧
    { w with nodes, transitions := ts }.ruleOf? = w.ruleOf? := by
  generalize hw' : { w with nodes, transitions := ts : Workflow } = w'
  replace lookup : w'.nodes.get? = w.nodes.get? := by rwa [← hw']
  have trigger : w'.entryTrigger? = w.entryTrigger? := by
    rw [entryTrigger?, entryTrigger?, entry?, entry?, lookup, ← hw']
  have entry : w'.isEntryTransition = w.isEntryTransition := by
    funext t
    rw [isEntryTransition, isEntryTransition, trigger, ← hw']
  have move : w'.transitionRule = w.transitionRule := by
    funext t
    rw [transitionRule, transitionRule, lookup, ← hw']
    rfl
  have enter : w'.entryRule = w.entryRule := by
    funext trigger t
    rw [entryRule, entryRule, lookup, ← hw']
    rfl
  refine ⟨entry, move, funext fun t => ?_⟩
  rw [ruleOf?, ruleOf?, entry, move, trigger, enter]

/-- Transitions and nodes in another order have the same rules in another order. -/
theorem exists_perm_of_perm (h : w.compile = .ok rules) {nodes : Table Node}
    {ts : List Transition} (sameNodes : nodes.entries.Perm w.nodes.entries)
    (sameTransitions : ts.Perm w.transitions) :
    ∃ rules', { w with nodes, transitions := ts }.compile = .ok rules' ∧ rules'.Perm rules := by
  obtain ⟨transitions, states, rfl⟩ := compile_eq_ok_iff.mp h
  obtain ⟨entry, move, rule⟩ := transitions_eq_of_get?_eq ts (get?_eq_of_perm sameNodes)
  have values : nodes.values.Perm w.nodes.values := sameNodes.map Prod.snd
  refine ⟨_, compile_eq_ok_iff.mpr ⟨fun t ht => ?_, fun n hn => ?_, rfl⟩, List.Perm.append ?_ ?_⟩
  · rw [CompilesAlone, entry, move]
    exact transitions t (sameTransitions.mem_iff.mp ht)
  · exact states n (values.mem_iff.mp hn)
  · rw [rulesOf, rulesOf, entry, rule]
    exact ((sameTransitions.filter _).filterMap _).append ((sameTransitions.filter _).filterMap _)
  · exact values.flatMap_right _

theorem transitionRule_switched (w : Workflow) (enabled : Bool) (t : Transition) :
    { w with enabled }.transitionRule t =
      (w.transitionRule t).map (Option.map (Rule.switch enabled)) := by
  simp only [transitionRule, moveRule]
  cases w.nodes.get? t.source with
  | none => rfl
  | some source =>
      cases w.nodes.get? t.target with
      | none => rfl
      | some target =>
          dsimp only
          cases source.data.exitGuard t.branchKey <;> rfl

theorem ruleOf?_switched (w : Workflow) (enabled : Bool) (t : Transition) :
    { w with enabled }.ruleOf? t = (w.ruleOf? t).map (Rule.switch enabled) := by
  have entry (trigger : TriggerData) : { w with enabled }.entryRule trigger t =
      (w.entryRule trigger t).map (Rule.switch enabled) := by
    simp only [entryRule, Option.map_map]
    rfl
  have same : { w with enabled }.isEntryTransition t = w.isEntryTransition t := rfl
  rw [ruleOf?, ruleOf?, same, transitionRule_switched]
  split
  · simp only [entry, Option.map_bind]
    rfl
  · rcases w.transitionRule t with _ | _ | _ <;> rfl

theorem nodeRules_switched (w : Workflow) (enabled : Bool) (n : Node) :
    { w with enabled }.nodeRules n = (w.nodeRules n).map (List.map (Rule.switch enabled)) := by
  have enter (d : StateData) : { w with enabled }.enterRule n.id d =
      (w.enterRule n.id d).map (Rule.switch enabled) := by
    rw [enterRule, enterRule]
    split <;> rfl
  have deadline (d : StateData) : { w with enabled }.deadlineRule n.id d =
      (w.deadlineRule n.id d).map (List.map (Rule.switch enabled)) := by
    rw [deadlineRule, deadlineRule]
    cases d.slaMinutes with
    | none => rfl
    | some minutes =>
        dsimp only
        split
        · rfl
        · cases minutes.minutesToHours <;> rfl
  rw [nodeRules, nodeRules]
  cases n.data.state? with
  | none => rfl
  | some d =>
      dsimp only
      rw [enter, deadline]
      cases w.deadlineRule n.id d with
      | error e => rfl
      | ok late => simp only [map_ok, List.map_append]

/-- The switch of a workflow is that of its rules, and all that they take from it. -/
theorem compile_switched (h : w.compile = .ok rules) (enabled : Bool) :
    { w with enabled }.compile = .ok (rules.map (Rule.switch enabled)) := by
  obtain ⟨transitions, nodes, rfl⟩ := compile_eq_ok_iff.mp h
  refine compile_eq_ok_iff.mpr ⟨fun t ht entry => ?_, fun n hn => ?_, ?_⟩
  · rw [transitionRule_switched, exists_map_eq_ok]
    exact transitions t ht entry
  · rw [nodeRules_switched, exists_map_eq_ok]
    exact nodes n hn
  · have entry : { w with enabled }.isEntryTransition = w.isEntryTransition := rfl
    have own : { w with enabled }.ruleOf? = fun t => (w.ruleOf? t).map (Rule.switch enabled) :=
      funext (ruleOf?_switched w enabled)
    have ofNode (n : Node) : ({ w with enabled }.nodeRules n).toOption.getD [] =
        ((w.nodeRules n).toOption.getD []).map (Rule.switch enabled) := by
      rw [nodeRules_switched]
      cases w.nodeRules n <;> rfl
    simp only [rulesOf, rulesOfStates, entry, own, ofNode, List.map_append, List.map_filterMap,
      List.map_flatMap]

/-! ## The whole -/

/-- Transitions are compiled independently of one another. The rules of a workflow that
compiles are, up to their order, at most one for each transition, which is there as well
when this is the only transition, and those of the states, which are all that is left without
transitions. So transitions and nodes in another order have the same rules in another order;
without one transition its own rule is missing, and with one more there is its own rule as
well, unless this one cannot be compiled alone; and with another switch of the workflow the
rules differ in their switch only. -/
theorem compile_transitionwise (h : w.compile = .ok rules) :
    ∃ (own : Transition → Option Rule) (states : List Rule),
      ((w.withTransitions []).compile = .ok states ∧
        (∀ t ∈ w.transitions,
          (w.withTransitions [t]).compile = .ok ((own t).toList ++ states)) ∧
        rules.Perm (w.transitions.filterMap own ++ states)) ∧
      (∀ (nodes : Table Node) (ts : List Transition), nodes.entries.Perm w.nodes.entries →
        ts.Perm w.transitions →
        ∃ rules', { w with nodes, transitions := ts }.compile = .ok rules' ∧ rules'.Perm rules) ∧
      (∀ before t after, w.transitions = before ++ t :: after →
        ∃ rules', (w.withTransitions (before ++ after)).compile = .ok rules' ∧
          Rule.Inserts (own t).toList rules' rules) ∧
      (∀ before t after, w.transitions = before ++ after →
        (∀ alone, (w.withTransitions [t]).compile = .ok alone →
          alone = (own t).toList ++ states ∧
          ∃ rules', (w.withTransitions (before ++ t :: after)).compile = .ok rules' ∧
            Rule.Inserts (own t).toList rules rules') ∧
        ∀ e, (w.withTransitions [t]).compile = .error e →
          (w.withTransitions (before ++ t :: after)).compile = .error e) ∧
      ∀ enabled, { w with enabled }.compile = .ok (rules.map (Rule.switch enabled)) := by
  obtain ⟨transitions, nodes, whole⟩ := compile_eq_ok_iff.mp h
  refine ⟨w.ruleOf?, w.rulesOfStates, ⟨?none, ?single, ?sum⟩, ?permuted, ?removed, ?added,
    ?switched⟩
  case none => exact compile_withTransitions nodes (List.forall_mem_nil _)
  case single =>
    intro t ht
    rw [compile_withTransitions nodes (by simpa using transitions t ht), rulesOf_singleton]
  case sum =>
    rw [whole]
    exact (perm_rulesOf w w.transitions).append_right _
  case permuted => exact fun _ _ => exists_perm_of_perm h
  case removed => exact fun _ _ _ => exists_compile_without h
  case added =>
    intro before t after parts
    refine ⟨fun alone halone => ?_, fun e => compile_with_error h⟩
    obtain ⟨single, -, rfl⟩ := compile_eq_ok_iff.mp halone
    exact ⟨congrArg (· ++ w.rulesOfStates) (rulesOf_singleton w t),
      exists_compile_with h parts (single t List.mem_cons_self)⟩
  case switched =>
    intro enabled
    exact compile_switched h enabled

/-- A room with a trigger at its door and two ways to leave it for itself. -/
def pacing : Workflow :=
  { sample "wf" "room" with
    transitions := (sample "wf" "room").transitions ++ [.plain "back" "room" "room" none] }

/-- In the opposite order of its transitions the same rules are there. The one by which tickets
enter comes first all the same. -/
theorem pacing_compile_transitionwise : ∃ rules, pacing.compile = .ok rules ∧
    rules.map Rule.id = ["wf-wf-entry-room", "wf-wf-t-room", "wf-wf-t-back", "wf-wf-enter-room",
      "wf-wf-sla-room"] ∧
    ∃ rules', { pacing with transitions := pacing.transitions.reverse }.compile = .ok rules' ∧
      rules'.Perm rules ∧
      rules'.map Rule.id = ["wf-wf-entry-room", "wf-wf-t-back", "wf-wf-t-room",
        "wf-wf-enter-room", "wf-wf-sla-room"] := by
  obtain ⟨own, states, -, permuted, -⟩ := compile_transitionwise (w := pacing) rfl
  obtain ⟨rules', h, perm⟩ := permuted pacing.nodes pacing.transitions.reverse (.refl _)
    (List.reverse_perm _)
  have computed := Except.ok.inj (h.symm.trans rfl)
  exact ⟨_, rfl, by decide, rules', h, perm, by rw [computed]; decide⟩

end Workflow

end TicketFlow
