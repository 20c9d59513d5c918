import TicketFlow.Proofs.Rule.Compile
import TicketFlow.Proofs.Workflow.RoundTrip

/-!
# Conforming rules

Compiling keeps to the vocabulary of the schema. The conditions and actions of a rule are
those of the workflow, negated ones among them, or some of the few that the compiler makes
itself, and all of these have a named field or kind and a known operator. So the engine is
only given conditions and actions that the schema accepts.
-/

namespace TicketFlow

open Fallible

/-- The conditions and actions of a rule conform. -/
structure Rule.Conforms (r : Rule) : Prop where
  conditions : ∀ c ∈ r.conditions, c.Conforms
  actions : ∀ a ∈ r.actions, a.Conforms

/-! ## Conditions and actions of the compiler -/

namespace Condition

theorem conforms_mk {field operator : String} (value : Value)
    (known : field ≠ "" ∧ operator ∈ conditionOperators) :
    (⟨field, operator, value⟩ : Condition).Conforms :=
  ⟨known.1, known.2⟩

theorem conforms_standsAt (workflowId nodeId : String) : (standsAt workflowId nodeId).Conforms :=
  conforms_mk _ (by decide)

theorem conforms_onEvent (event : String) : (onEvent event).Conforms :=
  conforms_mk _ (by decide)

theorem conforms_idleFor (hours : Number) : (idleFor hours).Conforms :=
  conforms_mk _ (by decide)

/-- The opposite of a known operator is known. -/
theorem negateOperator_mem {operator : String} (h : operator ∈ conditionOperators) :
    negateOperator operator ∈ conditionOperators := by
  have closed : ∀ o ∈ conditionOperators, negateOperator o ∈ conditionOperators := by decide
  exact closed operator h

theorem Conforms.negate {c : Condition} (h : c.Conforms) : c.negate.Conforms :=
  ⟨h.field_ne_empty, negateOperator_mem h.operator_mem⟩

end Condition

namespace Action

theorem conforms_mk {kind : String} (value : Value) (named : kind ≠ "") :
    (⟨kind, value, []⟩ : Action).Conforms :=
  ⟨named, List.nil_sublist _, List.forall_mem_nil _⟩

theorem conforms_enter (workflowId nodeId : String) : (enter workflowId nodeId).Conforms :=
  conforms_mk _ (by decide)

theorem conforms_leave (workflowId nodeId : String) : (leave workflowId nodeId).Conforms :=
  conforms_mk _ (by decide)

theorem conforms_escalate : escalate.Conforms :=
  conforms_mk _ (by decide)

end Action

/-! ## Guards -/

theorem ConditionData.conforms_branchGuard {d : ConditionData}
    (h : ∀ c ∈ d.conditions, c.Conforms) (branchKey : Option String) :
    ∀ c ∈ d.branchGuard branchKey, c.Conforms := by
  intro c mem
  cases branchKey with
  | none => exact absurd mem List.not_mem_nil
  | some key =>
      simp only [branchGuard] at mem
      split at mem
      case isTrue => exact h c mem
      case isFalse =>
        split at mem
        case isTrue =>
          obtain ⟨original, hmem, rfl⟩ := List.mem_map.mp mem
          exact (h original hmem).negate
        case isFalse => exact absurd mem List.not_mem_nil

/-- An empty guard has no conditions. -/
theorem not_mem_of_ok_nil {guard : List Condition} {c : Condition}
    (h : (.ok [] : Except CompileError (List Condition)) = .ok guard) : c ∉ guard := by
  cases h
  exact List.not_mem_nil

/-- The guard of a delay waits for hours or for an event, if it waits at all. -/
theorem DelayData.mem_guard {d : DelayData} {guard : List Condition} {c : Condition}
    (h : d.guard = .ok guard) (mem : c ∈ guard) :
    (∃ hours, c = .idleFor hours) ∨ ∃ event, c = .onEvent event := by
  rw [DelayData.guard] at h
  split at h
  case isTrue =>
    split at h
    case h_1 =>
      split at h
      case isTrue => exact absurd mem (not_mem_of_ok_nil h)
      case isFalse =>
        obtain ⟨hours, -, rfl⟩ := map_eq_ok.mp h
        exact .inl ⟨hours, List.mem_singleton.mp mem⟩
    case h_2 => exact absurd mem (not_mem_of_ok_nil h)
  case isFalse =>
    split at h
    case isTrue =>
      split at h
      case h_1 event _ =>
        split at h
        case isTrue => exact absurd mem (not_mem_of_ok_nil h)
        case isFalse =>
          cases h
          exact .inr ⟨event, List.mem_singleton.mp mem⟩
      case h_2 => exact absurd mem (not_mem_of_ok_nil h)
    case isFalse => exact absurd mem (not_mem_of_ok_nil h)

theorem NodeData.Conforms.exitGuard {data : NodeData} {branchKey : Option String}
    {guard : List Condition} (conforms : data.Conforms)
    (h : data.exitGuard branchKey = .ok guard) : ∀ c ∈ guard, c.Conforms := by
  intro c mem
  cases data with
  | condition d =>
      cases h
      exact ConditionData.conforms_branchGuard conforms.2 branchKey c mem
  | delay d =>
      rcases DelayData.mem_guard h mem with ⟨hours, rfl⟩ | ⟨event, rfl⟩
      · exact Condition.conforms_idleFor hours
      · exact Condition.conforms_onEvent event
  | trigger d => exact absurd mem (not_mem_of_ok_nil h)
  | state d => exact absurd mem (not_mem_of_ok_nil h)
  | action d => exact absurd mem (not_mem_of_ok_nil h)
  | terminal d => exact absurd mem (not_mem_of_ok_nil h)

/-! ## Rules of conforming workflows -/

namespace Workflow

variable {w : Workflow} {r : Rule} {t : Transition} {doc : Value}

theorem conforms_rule {suffix title : String} {kind : RuleKind} {conditions : List Condition}
    {actions : List Action} (tests : ∀ c ∈ conditions, c.Conforms)
    (effects : ∀ a ∈ actions, a.Conforms) :
    (w.rule suffix kind title conditions actions).Conforms :=
  ⟨tests, effects⟩

theorem Conforms.get? (h : w.Conforms) {key : String} {n : Node}
    (found : w.nodes.get? key = some n) : n.data.Conforms :=
  (h.nodes _ (Table.get?_eq_some_iff.mp found)).data

theorem Conforms.entryRule (h : w.Conforms) {trigger : TriggerData}
    (isEntry : w.entryTrigger? = some trigger) (mem : t ∈ w.transitions)
    (made : w.entryRule trigger t = some r) : r.Conforms := by
  obtain ⟨-, n, found, data⟩ := entryTrigger?_eq_some.mp isEntry
  have guarded := h.get? found
  rw [data] at guarded
  have moves := h.transitions t mem
  have event : ∀ c ∈ if trigger.event = "" then [] else [Condition.onEvent trigger.event],
      c.Conforms := by
    split
    · exact List.forall_mem_nil _
    · exact List.forall_mem_singleton.mpr (Condition.conforms_onEvent _)
  obtain ⟨target, -, rfl⟩ := entryRule_eq_some.mp made
  apply conforms_rule
  · rw [List.forall_mem_append, List.forall_mem_append]
    exact ⟨⟨event, guarded⟩, moves.conditions⟩
  · rw [List.forall_mem_append, List.forall_mem_singleton]
    exact ⟨moves.actions, Action.conforms_enter _ _⟩

theorem Conforms.transitionRule (h : w.Conforms) (mem : t ∈ w.transitions)
    (made : w.transitionRule t = .ok (some r)) : r.Conforms := by
  have moves := h.transitions t mem
  obtain ⟨source, target, guard, found, -, hguard, rfl⟩ := transitionRule_eq_some.mp made
  have guarded := (h.get? found).exitGuard hguard
  apply conforms_rule
  · rw [List.forall_mem_append, List.forall_mem_cons]
    exact ⟨⟨Condition.conforms_standsAt _ _, guarded⟩, moves.conditions⟩
  · rw [List.forall_mem_append, List.forall_mem_cons, List.forall_mem_singleton]
    exact ⟨moves.actions, Action.conforms_leave _ _, Action.conforms_enter _ _⟩

theorem Conforms.nodeRules (h : w.Conforms) {n : Node} (mem : n ∈ w.nodes.values)
    {found : List Rule} (made : w.nodeRules n = .ok found) (hr : r ∈ found) : r.Conforms := by
  obtain ⟨key, entry⟩ := Table.mem_values_iff.mp mem
  obtain ⟨d, data, enters | ⟨late, hlate, breaches⟩⟩ := (mem_nodeRules made).mp hr
  · obtain ⟨-, rfl⟩ := mem_enterRule.mp enters
    have conforms := (h.nodes _ entry).data
    rw [data] at conforms
    apply conforms_rule
    · exact List.forall_mem_singleton.mpr (Condition.conforms_standsAt _ _)
    · exact conforms.2
  · obtain ⟨minutes, hours, -, -, -, rfl⟩ := (mem_deadlineRule hlate).mp breaches
    apply conforms_rule
    · rw [List.forall_mem_cons, List.forall_mem_singleton]
      exact ⟨Condition.conforms_standsAt _ _, Condition.conforms_idleFor hours⟩
    · exact List.forall_mem_singleton.mpr Action.conforms_escalate

/-- A conforming workflow compiles to conforming rules. -/
theorem Conforms.compile {rules : List Rule} (h : w.Conforms) (compiled : w.compile = .ok rules) :
    ∀ r ∈ rules, r.Conforms := by
  intro r hr
  rcases (mem_compile compiled).mp hr with hr | ⟨t, ht, -, made⟩ | ⟨n, hn, found, made, hr⟩
  · obtain ⟨trigger, isEntry, t, ht, -, made⟩ := mem_entryRules.mp hr
    exact h.entryRule isEntry ht made
  · exact h.transitionRule ht made
  · exact h.nodeRules hn made hr

/-- A workflow that was read from a document and then repaired, any number of times with
non-empty ids, conforms. Of whatever it compiles to, every written condition and every
written action is accepted by its schema. -/
theorem derived_conforms (h : DerivedFrom doc w) :
    w.Conforms ∧ ∀ rules, w.compile = .ok rules → ∀ r ∈ rules,
      (∃ guard, r.toValue.get? "conditions" = some guard ∧
        guard.get? "all" = some (.array (Condition.toValues r.conditions)) ∧
        ∀ x ∈ Condition.toValues r.conditions, Schema.condition.Accepts x) ∧
      r.toValue.get? "actions" = some (.array (Action.toValues r.actions)) ∧
        ∀ x ∈ Action.toValues r.actions, Schema.action.Accepts x := by
  refine ⟨h.conforms, fun rules compiled r hr => ?_⟩
  have conforms := h.conforms.compile compiled r hr
  exact ⟨⟨_, rfl, rfl, Condition.accepts_toValues conforms.conditions⟩, rfl,
    Action.accepts_toValues conforms.actions⟩

/-- A document with a decision of one branch, a delay, a deadline and an action with a
further key. -/
def callback : Value :=
  .object [("id", .string "wf"), ("name", .string "Callback"),
    ("nodes", .object [
      ("in", .object [("id", .string "in"), ("type", .string "trigger"),
        ("data", .object [("event", .string "create")])]),
      ("ask", .object [("id", .string "ask"), ("type", .string "condition"),
        ("data", .object [("conditions", .array [.object
          [("field", .string "channel"), ("operator", .string "in"),
            ("value", .array [.string "phone"])]])])]),
      ("wait", .object [("id", .string "wait"), ("type", .string "delay"),
        ("data", .object [("type", .string "time"), ("minutes", .number 90)])]),
      ("call", .object [("id", .string "call"), ("type", .string "state"),
        ("data", .object [("label", .string "Call"), ("slaMinutes", .number 30),
          ("onEnterActions", .array [.object
            [("type", .string "notify"), ("channel", .string "sms")]])])])]),
    ("transitions", .array [
      .object [("id", .string "t1"), ("fromNodeId", .string "in"), ("toNodeId", .string "ask")],
      .object [("id", .string "t2"), ("fromNodeId", .string "ask"), ("toNodeId", .string "wait"),
        ("branchKey", .string "no")],
      .object [("id", .string "t3"), ("fromNodeId", .string "wait"),
        ("toNodeId", .string "call")]]),
    ("entryNodeId", .string "in")]

/-- The document is read. After a repair it compiles to nine rules, and all they test and do
is accepted. -/
theorem callback_derived_conforms :
    ∃ w rules, let repaired := (w.repair ⟨stemmedId "new", 0⟩ none).workflow
      read callback = .ok w ∧ repaired.compile = .ok rules ∧ rules.length = 9 ∧
        repaired.Conforms ∧ ∀ r ∈ rules,
          (∀ x ∈ Condition.toValues r.conditions, Schema.condition.Accepts x) ∧
            ∀ x ∈ Action.toValues r.actions, Schema.action.Accepts x := by
  have compiles : (do
      let w ← (read callback).toOption
      let rules ← (w.repair ⟨stemmedId "new", 0⟩ none).workflow.compile.toOption
      return rules.length) = some 9 := by decide +kernel
  obtain ⟨w, isRead, compiles⟩ := Option.bind_eq_some_iff.mp compiles
  obtain ⟨rules, compiled, count⟩ := Option.bind_eq_some_iff.mp compiles
  have isRead := toOption_eq_some.mp isRead
  have compiled := toOption_eq_some.mp compiled
  have once : DerivedFrom callback (w.repair ⟨stemmedId "new", 0⟩ none).workflow :=
    .repair (.read isRead) (fun i _ => stemmedId_ne_empty (by decide) i) none
  obtain ⟨conforms, accepted⟩ := derived_conforms once
  refine ⟨w, rules, isRead, compiled, Option.some.inj count, conforms, fun r hr => ?_⟩
  obtain ⟨⟨_, -, -, tests⟩, -, effects⟩ := accepted rules compiled r hr
  exact ⟨tests, effects⟩

end Workflow

end TicketFlow
