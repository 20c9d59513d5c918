import TicketFlow.Proofs.Repair.Conformance
import TicketFlow.Proofs.Time.RoundTrip
import TicketFlow.Report
import TicketFlow.Traversal

/-!
# Workflows read back

The document of a conforming workflow is accepted by the schema, and reading it gives
the workflow. Both are settled part by part: what an object shows under a name is the
content that the reader looks for, with an absent field for absent content and for an
empty list.
-/

namespace TicketFlow

open Fallible

namespace Value

variable {v : Value} {key name : String}

/-- What an object shows of a list: nothing if it is empty. -/
def shownList (items : List Value) : Option Value :=
  if items.isEmpty then none else some (.array items)

theorem lookup_optionEntry (content : Option Value) :
    Table.lookup key (optionEntry name content) = if name = key then content else none := by
  cases content <;> simp [optionEntry, Table.lookup]

theorem lookup_listEntry (items : List Value) :
    Table.lookup key (listEntry name items) = if name = key then shownList items else none := by
  cases items <;> simp [listEntry, shownList, Table.lookup]

theorem keys_optionEntry (content : Option Value) :
    ∀ key ∈ (optionEntry name content).map Prod.fst, key = name := by
  cases content <;> simp [optionEntry]

theorem keys_listEntry (items : List Value) :
    ∀ key ∈ (listEntry name items).map Prod.fst, key = name := by
  cases items <;> simp [listEntry]

theorem textField?_of_get? {text : Option String} (h : v.get? name = text.map .string) :
    v.textField? name = text := by
  rw [textField?, h]
  cases text <;> rfl

theorem numberField?_of_get? {n : Option Number} (h : v.get? name = n.map .number) :
    v.numberField? name = n := by
  rw [numberField?, h]
  cases n <;> rfl

theorem listField_of_get? {items : List Value} (h : v.get? name = shownList items) :
    v.listField name = .ok items := by
  rw [listField, h]
  cases items <;> rfl

theorem listField_of_array {items : List Value} (h : v.get? name = some (.array items)) :
    v.listField name = .ok items := by
  rw [listField, h]
  rfl

end Value

/-! ## Conditions and actions -/

theorem Condition.get?_toValue (c : Condition) :
    c.toValue.get? "field" = some (.string c.field) ∧
      c.toValue.get? "operator" = some (.string c.operator) ∧
      c.toValue.get? "value" = some c.value := by
  simp [toValue, Value.textEntry, Value.get?, Table.lookup]

theorem Condition.read_toValue (c : Condition) : Condition.read c.toValue = .ok c := by
  obtain ⟨field, operator, value⟩ := c.get?_toValue
  obtain ⟨fields, object⟩ : ∃ fields, c.toValue = .object fields := ⟨_, rfl⟩
  rw [object] at field operator value ⊢
  rw [Condition.read, Value.requireText_of_get? field, Value.requireText_of_get? operator, value]
  rfl

theorem Condition.Conforms.accepts {c : Condition} (h : c.Conforms) :
    Schema.condition.Accepts c.toValue := by
  obtain ⟨field, operator, -⟩ := c.get?_toValue
  refine Schema.accepts_object.mpr ⟨_, rfl, ?_⟩
  simp only [Schema.accepts_all_cons]
  refine ⟨Schema.accepts_field_of_get? field ?_, Schema.accepts_field_of_get? operator ?_,
    Schema.accepts_required.mpr ⟨_, field⟩, Schema.accepts_required.mpr ⟨_, operator⟩, ?_,
    Schema.accepts_all_nil⟩
  · exact Schema.accepts_filledText.mpr ⟨_, h.field_ne_empty, rfl⟩
  · exact Schema.accepts_choice.mpr ⟨_, h.operator_mem, rfl⟩
  · simp [toValue, Value.textEntry]

namespace Action

variable {a : Action}

/-- What an action shows under the name of its value: nothing if that is `null`. -/
theorem get?_value_toValue (h : a.Conforms) :
    (a.toValue.get? "value").getD .null = a.value := by
  have absent : Table.lookup "value" a.extra = none :=
    Table.lookup_eq_none_of_not_mem fun mem =>
      absurd (h.extra_sublist.subset mem) (by decide)
  rw [toValue]
  cases a.value <;> simp [Value.textEntry, Value.get?, Table.lookup, absent]

theorem get?_extra_toValue (a : Action) {key : String} (h : key ∈ actionExtraKeys) :
    a.toValue.get? key = Table.lookup key a.extra := by
  have notKind : "type" ≠ key := by
    rintro rfl
    exact absurd h (by decide)
  have notValue : "value" ≠ key := by
    rintro rfl
    exact absurd h (by decide)
  rw [toValue]
  cases a.value <;> simp [Value.textEntry, Value.get?, Table.lookup, notKind, notValue]

theorem get?_kind_toValue (a : Action) : a.toValue.get? "type" = some (.string a.kind) := by
  simp [toValue, Value.textEntry, Value.get?, Table.lookup]

theorem read_toValue (h : a.Conforms) : Action.read a.toValue = .ok a := by
  have kind := a.get?_kind_toValue
  have value := get?_value_toValue h
  have extra : (actionExtraKeys.filterMap fun key =>
      (a.toValue.get? key).map fun x => (key, x)) = a.extra := by
    have same : ∀ key ∈ actionExtraKeys, ((a.toValue.get? key).map fun x => (key, x)) =
        (Table.lookup key a.extra).map fun x => (key, x) := by
      intro key mem
      rw [a.get?_extra_toValue mem]
    rw [List.filterMap_congr same]
    exact Table.filterMap_lookup (by decide) h.extra_sublist
  obtain ⟨fields, object⟩ : ∃ fields, a.toValue = .object fields := ⟨_, rfl⟩
  rw [object] at kind value extra ⊢
  rw [Action.read, Value.requireText_of_get? kind, value, extra]
  rfl

theorem keys_toValue {key : String} (h : key ∈ a.toValue.fields.map Prod.fst) :
    key = "type" ∨ key = "value" ∨ key ∈ a.extra.map Prod.fst := by
  rw [toValue] at h
  cases a.value <;> simp [Value.textEntry] at h ⊢ <;> grind

theorem Conforms.accepts (h : a.Conforms) : Schema.action.Accepts a.toValue := by
  refine Schema.accepts_object.mpr ⟨_, rfl, ?_⟩
  simp only [Schema.accepts_all_cons]
  refine ⟨Schema.accepts_field_of_get? a.get?_kind_toValue ?_, ?_,
    Schema.accepts_required.mpr ⟨_, a.get?_kind_toValue⟩, ?_, Schema.accepts_all_nil⟩
  · exact Schema.accepts_filledText.mpr ⟨_, h.kind_ne_empty, rfl⟩
  · rw [Schema.accepts_all]
    intro s hs
    obtain ⟨key, mem, rfl⟩ := List.mem_map.mp hs
    rw [Schema.accepts_field, a.get?_extra_toValue mem]
    intro x found
    exact Schema.accepts_text.mpr (h.extra_text _ (Table.mem_of_lookup found))
  · rw [Schema.accepts_closed]
    intro key mem
    rcases keys_toValue mem with rfl | rfl | mem
    · exact List.mem_cons_self
    · exact List.mem_cons_of_mem _ List.mem_cons_self
    · exact List.mem_cons_of_mem _ (List.mem_cons_of_mem _ (h.extra_sublist.subset mem))

end Action

/-! ## Lists -/

section Lists

variable {v : Value} {name : String} {content : Schema}

theorem Schema.accepts_field_list {items : List Value}
    (found : v.get? name = Value.shownList items) (meets : ∀ x ∈ items, content.Accepts x) :
    (Schema.field name (.both (.kind .array) (.eachItem content))).Accepts v := by
  rw [Schema.accepts_field, found]
  intro x shown
  rw [Value.shownList] at shown
  split at shown
  case isTrue => cases shown
  case isFalse =>
    cases shown
    exact Schema.accepts_list.mpr ⟨items, rfl, meets⟩

theorem Condition.readList_ok {cs : List Condition}
    (h : v.listField name = .ok (Condition.toValues cs)) : Condition.readList v name = .ok cs := by
  rw [readList, h]
  exact mapM_map_of_inverse _ _ fun c _ => c.read_toValue

theorem Action.readList_ok {as : List Action} (conform : ∀ a ∈ as, a.Conforms)
    (h : v.listField name = .ok (Action.toValues as)) : Action.readList v name = .ok as := by
  rw [readList, h]
  exact mapM_map_of_inverse _ _ fun a mem => Action.read_toValue (conform a mem)

theorem Condition.accepts_toValues {cs : List Condition} (conform : ∀ c ∈ cs, c.Conforms) :
    ∀ x ∈ Condition.toValues cs, Schema.condition.Accepts x := by
  intro x hx
  obtain ⟨c, mem, rfl⟩ := List.mem_map.mp hx
  exact (conform c mem).accepts

theorem Action.accepts_toValues {as : List Action} (conform : ∀ a ∈ as, a.Conforms) :
    ∀ x ∈ Action.toValues as, Schema.action.Accepts x := by
  intro x hx
  obtain ⟨a, mem, rfl⟩ := List.mem_map.mp hx
  exact (conform a mem).accepts

end Lists

/-! ## Payloads -/

theorem TriggerData.get?_toValue (d : TriggerData) :
    let v := (NodeData.trigger d).toValue
    v.get? "event" = some (.string d.event) ∧
      v.get? "conditions" = Value.shownList (Condition.toValues d.conditions) := by
  simp [NodeData.toValue, Value.textEntry, Value.get?, Table.lookup, Value.lookup_listEntry]

theorem StateData.get?_toValue (d : StateData) :
    let v := (NodeData.state d).toValue
    v.get? "label" = some (.string d.label) ∧ v.get? "color" = d.color.map .string ∧
      v.get? "slaMinutes" = d.slaMinutes.map .number ∧
      v.get? "onEnterActions" = Value.shownList (Action.toValues d.onEnterActions) ∧
      v.get? "mandatoryFields" = Value.shownList (d.mandatoryFields.map .string) ∧
      v.get? "conditions" = none := by
  simp [NodeData.toValue, Value.textEntry, Value.get?, Table.lookup, Table.lookup_append,
    Value.lookup_optionEntry, Value.lookup_listEntry]

theorem ConditionData.get?_toValue (d : ConditionData) :
    let v := (NodeData.condition d).toValue
    v.get? "logic" = some (.string d.logic) ∧
      v.get? "conditions" = some (.array (Condition.toValues d.conditions)) := by
  simp [NodeData.toValue, Value.textEntry, Value.get?, Table.lookup]

theorem ActionData.get?_toValue (d : ActionData) :
    let v := (NodeData.action d).toValue
    v.get? "actions" = some (.array (Action.toValues d.actions)) ∧ v.get? "conditions" = none := by
  simp [NodeData.toValue, Value.get?, Table.lookup]

theorem DelayData.get?_toValue (d : DelayData) :
    let v := (NodeData.delay d).toValue
    v.get? "type" = some (.string d.kind) ∧ v.get? "minutes" = d.minutes.map .number ∧
      v.get? "event" = d.event.map .string ∧ v.get? "conditions" = none := by
  simp [NodeData.toValue, Value.textEntry, Value.get?, Table.lookup, Table.lookup_append,
    Value.lookup_optionEntry]

theorem EndData.get?_toValue (d : EndData) :
    let v := (NodeData.terminal d).toValue
    v.get? "label" = some (.string d.label) ∧ v.get? "conditions" = none := by
  simp [NodeData.toValue, Value.textEntry, Value.get?, Table.lookup]

/-- A payload without conditions shows none. -/
theorem Condition.readList_none {v : Value} (h : v.get? "conditions" = none) :
    Condition.readList v "conditions" = .ok [] :=
  Condition.readList_ok (Value.listField_of_get? h)

theorem filterMap_asString? (texts : List String) :
    (texts.map Value.string).filterMap Value.asString? = texts := by
  rw [List.filterMap_map]
  exact List.filterMap_some

theorem NodeData.read_toValue {d : NodeData} (h : d.Conforms) :
    NodeData.read d.type d.toValue = .ok d := by
  cases d with
  | trigger d =>
      obtain ⟨event, conditions⟩ := d.get?_toValue
      obtain ⟨fields, object⟩ : ∃ fields, (trigger d).toValue = .object fields := ⟨_, rfl⟩
      rw [object] at event conditions ⊢
      rw [NodeData.read, Condition.readList_ok (Value.listField_of_get? conditions), ok_bind]
      dsimp only [type]
      rw [Value.textField_of_get? event]
      rfl
  | state d =>
      obtain ⟨label, color, minutes, actions, mandatory, conditions⟩ := d.get?_toValue
      obtain ⟨fields, object⟩ : ∃ fields, (state d).toValue = .object fields := ⟨_, rfl⟩
      rw [object] at label color minutes actions mandatory conditions ⊢
      rw [NodeData.read, Condition.readList_none conditions, ok_bind]
      dsimp only [type]
      rw [Action.readList_ok h.2 (Value.listField_of_get? actions), ok_bind,
        Value.listField_of_get? mandatory, ok_bind, Value.textField_of_get? label,
        Value.textField?_of_get? color, Value.numberField?_of_get? minutes, filterMap_asString?]
      rfl
  | condition d =>
      obtain ⟨logic, conditions⟩ := d.get?_toValue
      obtain ⟨fields, object⟩ : ∃ fields, (condition d).toValue = .object fields := ⟨_, rfl⟩
      rw [object] at logic conditions ⊢
      rw [NodeData.read, Condition.readList_ok (Value.listField_of_array conditions), ok_bind]
      dsimp only [type]
      rw [Value.textField_of_get? logic]
      rfl
  | action d =>
      obtain ⟨actions, conditions⟩ := d.get?_toValue
      obtain ⟨fields, object⟩ : ∃ fields, (action d).toValue = .object fields := ⟨_, rfl⟩
      rw [object] at actions conditions ⊢
      rw [NodeData.read, Condition.readList_none conditions, ok_bind]
      dsimp only [type]
      rw [Action.readList_ok h (Value.listField_of_array actions)]
      rfl
  | delay d =>
      obtain ⟨kind, minutes, event, conditions⟩ := d.get?_toValue
      obtain ⟨fields, object⟩ : ∃ fields, (delay d).toValue = .object fields := ⟨_, rfl⟩
      rw [object] at kind minutes event conditions ⊢
      rw [NodeData.read, Condition.readList_none conditions, ok_bind]
      dsimp only [type]
      rw [Value.textField_of_get? kind, Value.numberField?_of_get? minutes,
        Value.textField?_of_get? event]
      rfl
  | terminal d =>
      obtain ⟨label, conditions⟩ := d.get?_toValue
      obtain ⟨fields, object⟩ : ∃ fields, (terminal d).toValue = .object fields := ⟨_, rfl⟩
      rw [object] at label conditions ⊢
      rw [NodeData.read, Condition.readList_none conditions, ok_bind]
      dsimp only [type]
      rw [Value.textField_of_get? label]
      rfl

theorem NodeData.Conforms.accepts {d : NodeData} (h : d.Conforms) :
    d.type.dataSchema.Accepts d.toValue := by
  cases d with
  | trigger d =>
      obtain ⟨event, conditions⟩ := d.get?_toValue
      refine Schema.accepts_object.mpr ⟨_, rfl, ?_⟩
      simp only [Schema.accepts_all_cons]
      refine ⟨Schema.accepts_field_of_get? event (Schema.accepts_text.mpr ⟨_, rfl⟩),
        Schema.accepts_field_list conditions (Condition.accepts_toValues h),
        Schema.accepts_required.mpr ⟨_, event⟩, Schema.accepts_all_nil⟩
  | state d =>
      obtain ⟨label, color, minutes, actions, mandatory, -⟩ := d.get?_toValue
      refine Schema.accepts_object.mpr ⟨_, rfl, ?_⟩
      simp only [Schema.accepts_all_cons]
      refine ⟨Schema.accepts_field_of_get? label (Schema.accepts_text.mpr ⟨_, rfl⟩),
        Schema.accepts_field_text color, Schema.accepts_field_count minutes h.1,
        Schema.accepts_field_list actions (Action.accepts_toValues h.2),
        Schema.accepts_field_list mandatory ?_,
        Schema.accepts_required.mpr ⟨_, label⟩, Schema.accepts_all_nil⟩
      intro x hx
      obtain ⟨s, -, rfl⟩ := List.mem_map.mp hx
      exact Schema.accepts_text.mpr ⟨s, rfl⟩
  | condition d =>
      obtain ⟨logic, conditions⟩ := d.get?_toValue
      refine Schema.accepts_object.mpr ⟨_, rfl, ?_⟩
      simp only [Schema.accepts_all_cons]
      exact ⟨Schema.accepts_field_of_get? logic (Schema.accepts_choice.mpr ⟨_, h.1, rfl⟩),
        Schema.accepts_field_of_get? conditions
          (Schema.accepts_list.mpr ⟨_, rfl, Condition.accepts_toValues h.2⟩),
        Schema.accepts_required.mpr ⟨_, conditions⟩, Schema.accepts_all_nil⟩
  | action d =>
      obtain ⟨actions, -⟩ := d.get?_toValue
      refine Schema.accepts_object.mpr ⟨_, rfl, ?_⟩
      simp only [Schema.accepts_all_cons]
      exact ⟨Schema.accepts_field_of_get? actions
        (Schema.accepts_list.mpr ⟨_, rfl, Action.accepts_toValues h⟩), Schema.accepts_all_nil⟩
  | delay d =>
      obtain ⟨kind, minutes, event, -⟩ := d.get?_toValue
      refine Schema.accepts_object.mpr ⟨_, rfl, ?_⟩
      simp only [Schema.accepts_all_cons]
      exact ⟨Schema.accepts_field_of_get? kind (Schema.accepts_choice.mpr ⟨_, h.1, rfl⟩),
        Schema.accepts_field_count minutes h.2, Schema.accepts_field_text event,
        Schema.accepts_required.mpr ⟨_, kind⟩, Schema.accepts_all_nil⟩
  | terminal d =>
      obtain ⟨label, -⟩ := d.get?_toValue
      refine Schema.accepts_object.mpr ⟨_, rfl, ?_⟩
      simp only [Schema.accepts_all_cons]
      exact ⟨Schema.accepts_field_of_get? label (Schema.accepts_text.mpr ⟨_, rfl⟩),
        Schema.accepts_all_nil⟩

/-! ## Nodes and transitions -/

theorem Node.get?_toValue (n : Node) :
    n.toValue.get? "id" = some (.string n.id) ∧
      n.toValue.get? "type" = some (.string n.type.name) ∧
      n.toValue.get? "data" = some n.data.toValue ∧
      n.toValue.get? "position" = some n.position.toValue := by
  simp [toValue, Value.textEntry, Value.get?, Table.lookup]

theorem Position.get?_toValue (p : Position) :
    p.toValue.get? "x" = some (.number p.x) ∧ p.toValue.get? "y" = some (.number p.y) := by
  simp [toValue, Value.get?, Table.lookup]

theorem Position.read_toValue (p : Position) : Position.read p.toValue = p := by
  obtain ⟨x, y⟩ := p.get?_toValue
  rw [read, Value.numberField, Value.numberField, Value.numberField?, Value.numberField?, x, y]
  rfl

theorem Position.accepts_toValue (p : Position) : Schema.position.Accepts p.toValue := by
  obtain ⟨x, y⟩ := p.get?_toValue
  refine Schema.accepts_object.mpr ⟨_, rfl, ?_⟩
  simp only [Schema.accepts_all_cons]
  exact ⟨Schema.accepts_field_of_get? x (Schema.accepts_kind.mpr rfl),
    Schema.accepts_field_of_get? y (Schema.accepts_kind.mpr rfl),
    Schema.accepts_required.mpr ⟨_, x⟩, Schema.accepts_required.mpr ⟨_, y⟩,
    Schema.accepts_all_nil⟩

theorem Node.read_toValue {key : String} {n : Node} (h : n.Conforms key) :
    Node.read key n.toValue = .ok n := by
  obtain ⟨id, type, data, position⟩ := n.get?_toValue
  rw [read, Value.requireText_of_get? id, ok_bind, if_neg (Decidable.not_not.mpr h.id_eq_key),
    Value.require_of_get? type, ok_bind, NodeType.read_name, ok_bind,
    Value.require_of_get? data, ok_bind,
    Node.type, NodeData.read_toValue h.data, ok_bind, position, Option.getD_some,
    Position.read_toValue, ← h.id_eq_key]
  rfl

theorem Node.Conforms.accepts {key : String} {n : Node} (h : n.Conforms key) :
    Schema.node.Accepts n.toValue := by
  obtain ⟨id, type, data, position⟩ := n.get?_toValue
  refine Schema.accepts_object.mpr ⟨_, rfl, ?_⟩
  simp only [Schema.accepts_all_cons]
  refine ⟨Schema.accepts_field_of_get? id (Schema.accepts_filledText.mpr ⟨_, h.id_ne_empty, rfl⟩),
    Schema.accepts_field_of_get? type (Schema.accepts_choice.mpr ⟨_, n.type.name_mem, rfl⟩),
    Schema.accepts_field_of_get? data ?_,
    Schema.accepts_field_of_get? position n.position.accepts_toValue,
    Schema.accepts_required.mpr ⟨_, id⟩, Schema.accepts_required.mpr ⟨_, type⟩,
    Schema.accepts_required.mpr ⟨_, data⟩, ?_, Schema.accepts_all_nil⟩
  · cases n.data <;> exact Schema.accepts_kind.mpr rfl
  · rw [Schema.accepts_all]
    intro s hs
    obtain ⟨⟨name, schema⟩, mem, rfl⟩ := List.mem_map.mp hs
    rw [Schema.accepts_whenTag]
    intro tagged
    have named : n.type.name = name := Value.string.inj (tagged _ type)
    subst named
    rw [NodeType.eq_dataSchema mem]
    exact Schema.accepts_field_of_get? data h.data.accepts

theorem Transition.get?_toValue (t : Transition) :
    t.toValue.get? "id" = some (.string t.id) ∧
      t.toValue.get? "fromNodeId" = some (.string t.source) ∧
      t.toValue.get? "toNodeId" = some (.string t.target) ∧
      t.toValue.get? "label" = t.label.map .string ∧
      t.toValue.get? "branchKey" = t.branchKey.map .string ∧
      t.toValue.get? "conditions" = Value.shownList (Condition.toValues t.conditions) ∧
      t.toValue.get? "actions" = Value.shownList (Action.toValues t.actions) := by
  simp [toValue, Value.textEntry, Value.get?, Table.lookup, Table.lookup_append,
    Value.lookup_optionEntry, Value.lookup_listEntry]

theorem Transition.read_toValue {t : Transition} (h : t.Conforms) :
    Transition.read t.toValue = .ok t := by
  obtain ⟨id, source, target, label, branchKey, conditions, actions⟩ := t.get?_toValue
  rw [read, Value.requireText_of_get? id, ok_bind, Value.requireText_of_get? source, ok_bind,
    Value.requireText_of_get? target, ok_bind,
    Condition.readList_ok (Value.listField_of_get? conditions), ok_bind,
    Action.readList_ok h.actions (Value.listField_of_get? actions), ok_bind,
    Value.textField?_of_get? label, Value.textField?_of_get? branchKey]
  rfl

theorem Transition.keys_toValue {t : Transition} {key : String}
    (h : key ∈ t.toValue.fields.map Prod.fst) :
    key ∈ ["id", "fromNodeId", "toNodeId", "label", "branchKey", "conditions", "actions"] := by
  simp only [toValue, Value.fields_object, List.map_append, List.mem_append] at h
  rcases h with (((h | h) | h) | h) | h
  · exact List.mem_append_left ["label", "branchKey", "conditions", "actions"] h
  · rw [Value.keys_optionEntry _ key h]
    decide
  · rw [Value.keys_optionEntry _ key h]
    decide
  · rw [Value.keys_listEntry _ key h]
    decide
  · rw [Value.keys_listEntry _ key h]
    decide

theorem Transition.Conforms.accepts {t : Transition} (h : t.Conforms) :
    Schema.transition.Accepts t.toValue := by
  obtain ⟨id, source, target, label, branchKey, conditions, actions⟩ := t.get?_toValue
  refine Schema.accepts_object.mpr ⟨_, rfl, ?_⟩
  simp only [Schema.accepts_all_cons]
  refine ⟨Schema.accepts_field_of_get? id (Schema.accepts_filledText.mpr ⟨_, h.id_ne_empty, rfl⟩),
    Schema.accepts_field_of_get? source (Schema.accepts_text.mpr ⟨_, rfl⟩),
    Schema.accepts_field_of_get? target (Schema.accepts_text.mpr ⟨_, rfl⟩),
    Schema.accepts_field_text label, Schema.accepts_field_text branchKey,
    Schema.accepts_field_list conditions (Condition.accepts_toValues h.conditions),
    Schema.accepts_field_list actions (Action.accepts_toValues h.actions),
    Schema.accepts_required.mpr ⟨_, id⟩, Schema.accepts_required.mpr ⟨_, source⟩,
    Schema.accepts_required.mpr ⟨_, target⟩, ?_, Schema.accepts_all_nil⟩
  exact Schema.accepts_closed.mpr fun key => keys_toValue

/-! ## Whole workflows -/

theorem Timestamp.readText_text (t : Timestamp) : readText t.text = .ok (some t) := by
  rw [readText, if_neg t.text_ne_empty, ofText?_text]

namespace Workflow

theorem get?_toValue (w : Workflow) :
    w.toValue.get? "id" = some (.string w.id) ∧
      w.toValue.get? "name" = some (.string w.name) ∧
      w.toValue.get? "nodes" = some (.object (w.nodes.entries.map fun e => (e.1, e.2.toValue))) ∧
      w.toValue.get? "transitions" = some (.array (w.transitions.map Transition.toValue)) ∧
      w.toValue.get? "entryNodeId" = some (.string w.entryId) ∧
      w.toValue.get? "enabled" = some (.bool w.enabled) ∧
      w.toValue.get? "version" = some (.number w.version) ∧
      w.toValue.get? "description" = w.description.map .string ∧
      w.toValue.get? "createdAt" = (w.createdAt.map Timestamp.text).map .string ∧
      w.toValue.get? "updatedAt" = (w.updatedAt.map Timestamp.text).map .string := by
  have stamp : Timestamp.toValue = fun t => Value.string t.text := rfl
  simp [toValue, Value.textEntry, Value.get?, Table.lookup, Table.lookup_append,
    Value.lookup_optionEntry, Option.map_map, Function.comp_def, stamp]

theorem readTimestamp_toValue {v : Value} {name : String} {t : Option Timestamp}
    (h : v.get? name = (t.map Timestamp.text).map .string) :
    Timestamp.readText (v.textField name "") = .ok t := by
  rw [Value.textField, h]
  cases t with
  | none => rfl
  | some t => exact t.readText_text

variable {w : Workflow}

theorem Conforms.accepts (h : w.Conforms) : Schema.workflow.Accepts w.toValue := by
  obtain ⟨id, name, nodes, transitions, entry, enabled, version, description, created, updated⟩ :=
    w.get?_toValue
  refine Schema.accepts_object.mpr ⟨_, rfl, ?_⟩
  simp only [Schema.accepts_all_cons]
  refine ⟨Schema.accepts_field_of_get? id (Schema.accepts_filledText.mpr ⟨_, h.id_ne_empty, rfl⟩),
    Schema.accepts_field_of_get? name (Schema.accepts_filledText.mpr ⟨_, h.name_ne_empty, rfl⟩),
    Schema.accepts_field_text description, Schema.accepts_field_of_get? nodes ?_,
    Schema.accepts_field_of_get? transitions (Schema.accepts_list.mpr ⟨_, rfl, ?_⟩),
    Schema.accepts_field_of_get? entry (Schema.accepts_text.mpr ⟨_, rfl⟩),
    Schema.accepts_field_of_get? enabled (Schema.accepts_kind.mpr rfl),
    Schema.accepts_field_of_get? version (Schema.accepts_count.mpr ⟨_, h.version, rfl⟩),
    Schema.accepts_field_text created, Schema.accepts_field_text updated,
    Schema.accepts_required.mpr ⟨_, id⟩, Schema.accepts_required.mpr ⟨_, name⟩,
    Schema.accepts_required.mpr ⟨_, nodes⟩, Schema.accepts_required.mpr ⟨_, transitions⟩,
    Schema.accepts_required.mpr ⟨_, entry⟩, Schema.accepts_all_nil⟩
  · refine Schema.accepts_both.mpr ⟨Schema.accepts_kind.mpr rfl, ?_⟩
    rw [Schema.accepts_eachField]
    intro f hf
    obtain ⟨e, mem, rfl⟩ := List.mem_map.mp hf
    exact (h.nodes e mem).accepts
  · intro x hx
    obtain ⟨t, mem, rfl⟩ := List.mem_map.mp hx
    exact (h.transitions t mem).accepts

theorem Conforms.checkSchema (h : w.Conforms) : checkSchema w.toValue = .ok () := by
  have none : Schema.workflow.violations w.toValue = [] := h.accepts
  rw [Workflow.checkSchema, none]

theorem readNodes_toValue (h : w.Conforms) :
    readNodes (.object (w.nodes.entries.map fun e => (e.1, e.2.toValue))) = .ok w.nodes := by
  have entries : (w.nodes.entries.map fun e => (e.1, e.2.toValue)).mapM
      (fun f => do return (f.1, ← Node.read f.1 f.2)) = Except.ok w.nodes.entries := by
    refine mapM_map_of_inverse _ _ fun e mem => ?_
    rw [Node.read_toValue (h.nodes e mem)]
    rfl
  rw [readNodes, Value.fields_object, entries, ok_bind, Table.ofList_entries]
  rfl

/-- A conforming workflow is read back from its document. -/
theorem read_toValue (h : w.Conforms) : read w.toValue = .ok w := by
  obtain ⟨id, name, nodes, transitions, entry, enabled, version, description, created, updated⟩ :=
    w.get?_toValue
  have readTransitions :
      (w.transitions.map Transition.toValue).mapM Transition.read = .ok w.transitions :=
    mapM_map_of_inverse _ _ fun t mem => Transition.read_toValue (h.transitions t mem)
  rw [read, h.checkSchema, ok_bind, readFields, nodes, Option.getD_some, readNodes_toValue h,
    ok_bind, transitions, Option.getD_some, Value.items_array, readTransitions, ok_bind,
    readTimestamp_toValue created, ok_bind, readTimestamp_toValue updated, ok_bind,
    Value.textField_of_get? id, Value.textField_of_get? name, Value.textField_of_get? entry,
    Value.textField?_of_get? description, enabled, Value.numberField, Value.numberField?, version]
  rfl

/-- An export brings its workflow along, whatever its rules and its time. -/
theorem readExport_exportValue (h : w.Conforms) (rules : List Rule)
    (exportedAt : Option Timestamp) : readExport (w.exportValue rules exportedAt) = .ok w := by
  have shown : w.toValue.isSet = true := rfl
  have format : (w.exportValue rules exportedAt).get? "format" = some (.string exportFormat) := by
    simp [exportValue, Value.textEntry, Value.get?, Table.lookup]
  have content : (w.exportValue rules exportedAt).get? "workflow" = some w.toValue := by
    simp [exportValue, Value.textEntry, Value.get?, Table.lookup]
  obtain ⟨fields, object⟩ : ∃ fields, w.exportValue rules exportedAt = .object fields := ⟨_, rfl⟩
  rw [object] at format content ⊢
  simp only [readExport, format, content, Option.getD_some, Value.asString?, if_true, shown]
  exact read_toValue h

/-- The workflows that a document and repairs, any number of them, lead to. Each repair has
non-empty ids and a time of its own. -/
inductive DerivedFrom (doc : Value) : Workflow → Prop
  | read {w : Workflow} (h : Workflow.read doc = .ok w) : DerivedFrom doc w
  | repair {w : Workflow} {ids : IdSupply String} (h : DerivedFrom doc w)
      (ids_ne_empty : ∀ i, ids.drawn ≤ i → ids.ids i ≠ "") (now : Option Timestamp) :
      DerivedFrom doc (w.repair ids now).workflow

variable {doc : Value}

theorem DerivedFrom.conforms (h : DerivedFrom doc w) : w.Conforms := by
  induction h with
  | read h => exact conforms_of_read h
  | repair _ ids_ne_empty now ih => exact ih.repair ids_ne_empty now

/-- A workflow that was read from a document and then repaired, any number of times, is
written as a document that the schema accepts and that is read as the same workflow. An
export of it with any rules and time is read as the same workflow, too, and compiles to
the same rules or fails in the same way. -/
theorem read_derived (h : DerivedFrom doc w) :
    (checkSchema w.toValue = .ok () ∧ read w.toValue = .ok w) ∧
      ∀ (rules : List Rule) (exportedAt : Option Timestamp),
        readExport (w.exportValue rules exportedAt) = .ok w ∧
          (readExport (w.exportValue rules exportedAt)).map compile = .ok w.compile := by
  refine ⟨⟨h.conforms.checkSchema, read_toValue h.conforms⟩, fun rules exportedAt => ?_⟩
  have reloaded := readExport_exportValue h.conforms rules exportedAt
  exact ⟨reloaded, by rw [reloaded, map_ok]⟩

/-- A document without positions, with an empty label, a deadline of zero, a `null` operand
and a field that no workflow has. -/
def intake : Value :=
  .object [("id", .string "wf"), ("name", .string "Intake"), ("owner", .string "desk"),
    ("nodes", .object [
      ("in", .object [("id", .string "in"), ("type", .string "trigger"),
        ("data", .object [("event", .string "create"), ("conditions", .array [.object
          [("field", .string "tag"), ("operator", .string "is_empty"), ("value", .null)]])])]),
      ("new", .object [("id", .string "new"), ("type", .string "state"),
        ("data", .object [("label", .string ""), ("slaMinutes", .number 0)])])]),
    ("transitions", .array [.object [("id", .string "t1"), ("fromNodeId", .string "in"),
      ("toNodeId", .string "new"), ("conditions", .array [])]]),
    ("entryNodeId", .string "in"), ("createdAt", .string "2024-03-01T09:30:00+00:00"),
    ("updatedAt", .string "")]

/-- The document is read, and two repairs later what was repaired is read back. -/
theorem intake_read_derived :
    ∃ w, read intake = .ok w ∧
      let once := (w.repair ⟨stemmedId "new", 0⟩
        (Timestamp.ofText? "2024-03-02T10:00:00Z")).workflow
      let twice := (once.repair ⟨stemmedId "more", 0⟩ none).workflow
      read twice.toValue = .ok twice := by
  have isRead : (read intake).toOption.isSome = true := by decide +kernel
  cases h : read intake with
  | error e =>
      rw [h] at isRead
      cases isRead
  | ok w =>
      have once : DerivedFrom intake (w.repair ⟨stemmedId "new", 0⟩
          (Timestamp.ofText? "2024-03-02T10:00:00Z")).workflow :=
        .repair (.read h) (fun i _ => stemmedId_ne_empty (by decide) i) _
      refine ⟨w, rfl, ?_⟩
      generalize (w.repair ⟨stemmedId "new", 0⟩
        (Timestamp.ofText? "2024-03-02T10:00:00Z")).workflow = w' at once ⊢
      have twice : DerivedFrom intake (w'.repair ⟨stemmedId "more", 0⟩ none).workflow :=
        .repair once (fun i _ => stemmedId_ne_empty (by decide) i) none
      exact (read_derived twice).1.2

end Workflow

end TicketFlow
