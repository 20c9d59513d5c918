import TicketFlow.Proofs.Fallible
import TicketFlow.Proofs.Repair.Pass
import TicketFlow.Proofs.Schema.Acceptance
import TicketFlow.Workflow.Reader

/-!
# Conforming workflows

What the schema demands of a document leaves its trace in the workflow that is read
from it. A conforming workflow is one that such a document could describe: its ids
are not empty, its nodes stand under their own ids, and its vocabulary is that of the
schema. Every workflow that was read conforms.
-/

namespace TicketFlow

/-- The field has a name and the operator is one of the vocabulary. -/
structure Condition.Conforms (c : Condition) : Prop where
  field_ne_empty : c.field ≠ ""
  operator_mem : c.operator ∈ conditionOperators

/-- The kind has a name, and the further keys are some of those known, in their order and
with texts under them. -/
structure Action.Conforms (a : Action) : Prop where
  kind_ne_empty : a.kind ≠ ""
  extra_sublist : (a.extra.map Prod.fst).Sublist actionExtraKeys
  extra_text : ∀ e ∈ a.extra, ∃ s, e.2 = .string s

namespace NodeData

/-- The parts of a payload conform. -/
def Conforms : NodeData → Prop
  | .trigger d => ∀ c ∈ d.conditions, c.Conforms
  | .state d =>
    (∀ minutes, d.slaMinutes = some minutes → minutes.IsCount) ∧
      ∀ a ∈ d.onEnterActions, a.Conforms
  | .condition d => d.logic ∈ ["all", "any"] ∧ ∀ c ∈ d.conditions, c.Conforms
  | .action d => ∀ a ∈ d.actions, a.Conforms
  | .delay d =>
    d.kind ∈ ["time", "event"] ∧ ∀ minutes, d.minutes = some minutes → minutes.IsCount
  | .terminal _ => True

end NodeData

structure Transition.Conforms (t : Transition) : Prop where
  id_ne_empty : t.id ≠ ""
  conditions : ∀ c ∈ t.conditions, c.Conforms
  actions : ∀ a ∈ t.actions, a.Conforms

/-- A node stands under its own id, which is not empty, and its payload conforms. -/
structure Node.Conforms (key : String) (n : Node) : Prop where
  id_eq_key : n.id = key
  id_ne_empty : n.id ≠ ""
  data : n.data.Conforms

structure Workflow.Conforms (w : Workflow) : Prop where
  id_ne_empty : w.id ≠ ""
  name_ne_empty : w.name ≠ ""
  version : w.version.IsCount
  nodes : ∀ e ∈ w.nodes.entries, e.2.Conforms e.1
  transitions : ∀ t ∈ w.transitions, t.Conforms

open Fallible

namespace Value

variable {v x : Value} {name s : String} {content : Schema}

theorem require_eq_ok : v.require name = .ok x ↔ v.get? name = some x := by
  rw [require]
  cases v.get? name <;> simp

theorem require_of_get? (h : v.get? name = some x) : v.require name = .ok x :=
  require_eq_ok.mpr h

theorem requireText_of_get? (h : v.get? name = some (.string s)) : v.requireText name = .ok s := by
  rw [requireText, require_of_get? h]
  rfl

theorem textField_of_get? {default : String} (h : v.get? name = some (.string s)) :
    v.textField name default = s := by
  rw [textField, h]
  rfl

/-- What a list goes through has met the schema of its items. -/
theorem mem_listField {items : List Value}
    (meets : (Schema.field name (.both (.kind .array) (.eachItem content))).Accepts v)
    (h : v.listField name = .ok items) : ∀ x ∈ items, content.Accepts x := by
  rw [Schema.accepts_field] at meets
  rw [listField] at h
  cases found : v.get? name with
  | none =>
      rw [found] at h
      cases h
      exact List.forall_mem_nil _
  | some list =>
      obtain ⟨items, rfl, accepted⟩ := Schema.accepts_list.mp (meets list found)
      rw [found] at h
      cases h
      exact accepted

end Value

theorem Condition.conforms_of_read {v : Value} {c : Condition}
    (meets : Schema.condition.Accepts v) (h : Condition.read v = .ok c) : c.Conforms := by
  obtain ⟨fields, rfl, parts⟩ := Schema.accepts_object.mp meets
  simp only [Schema.accepts_all_cons] at parts
  obtain ⟨field, operator, hasField, hasOperator, -, -⟩ := parts
  obtain ⟨x, field?, filled⟩ := Schema.exists_field hasField field
  obtain ⟨y, operator?, known⟩ := Schema.exists_field hasOperator operator
  obtain ⟨field, notEmpty, rfl⟩ := Schema.accepts_filledText.mp filled
  obtain ⟨operator, mem, rfl⟩ := Schema.accepts_choice.mp known
  rw [Condition.read, Value.requireText_of_get? field?, Value.requireText_of_get? operator?] at h
  cases h
  exact ⟨notEmpty, mem⟩

theorem Action.conforms_of_read {v : Value} {a : Action}
    (meets : Schema.action.Accepts v) (h : Action.read v = .ok a) : a.Conforms := by
  obtain ⟨fields, rfl, parts⟩ := Schema.accepts_object.mp meets
  simp only [Schema.accepts_all_cons] at parts
  obtain ⟨kind, extra, hasKind, -, -⟩ := parts
  obtain ⟨x, kind?, filled⟩ := Schema.exists_field hasKind kind
  obtain ⟨kind, notEmpty, rfl⟩ := Schema.accepts_filledText.mp filled
  rw [Action.read, Value.requireText_of_get? kind?] at h
  cases h
  refine ⟨notEmpty, ?_, fun e he => ?_⟩
  · rw [Table.map_fst_filterMap]
    exact List.filter_sublist
  · obtain ⟨key, mem, content⟩ := List.mem_filterMap.mp he
    obtain ⟨x, found, rfl⟩ := Option.map_eq_some_iff.mp content
    have text := Schema.accepts_all.mp extra _ (List.mem_map_of_mem mem)
    exact Schema.accepts_text.mp (Schema.accepts_field.mp text x found)

section Lists

variable {v : Value} {name : String}

theorem Condition.conforms_of_readList {cs : List Condition}
    (meets : (Schema.field name .conditionList).Accepts v)
    (h : Condition.readList v name = .ok cs) : ∀ c ∈ cs, c.Conforms := by
  obtain ⟨items, list, read⟩ := bind_eq_ok.mp h
  intro c hc
  obtain ⟨x, hx, readItem⟩ := exists_of_mem_mapM read hc
  exact Condition.conforms_of_read (Value.mem_listField meets list x hx) readItem

theorem Action.conforms_of_readList {as : List Action}
    (meets : (Schema.field name .actionList).Accepts v)
    (h : Action.readList v name = .ok as) : ∀ a ∈ as, a.Conforms := by
  obtain ⟨items, list, read⟩ := bind_eq_ok.mp h
  intro a ha
  obtain ⟨x, hx, readItem⟩ := exists_of_mem_mapM read ha
  exact Action.conforms_of_read (Value.mem_listField meets list x hx) readItem

/-- A number that may be absent is a count if it is there. -/
theorem Value.isCount_of_numberField? (meets : (Schema.field name .count).Accepts v) :
    ∀ n, v.numberField? name = some n → n.IsCount := by
  intro n h
  obtain ⟨x, found, number⟩ := Option.bind_eq_some_iff.mp h
  obtain ⟨m, isCount, rfl⟩ := Schema.accepts_count.mp (Schema.accepts_field.mp meets x found)
  cases number
  exact isCount

/-- A choice that may be absent is one of the choices, if the default is. -/
theorem Value.textField_mem {choices : List String} {default : String}
    (meets : (Schema.field name (.choice choices)).Accepts v) (h : default ∈ choices) :
    v.textField name default ∈ choices := by
  rw [Schema.accepts_field] at meets
  rw [Value.textField]
  cases found : v.get? name with
  | none => exact h
  | some x =>
      obtain ⟨s, mem, rfl⟩ := Schema.accepts_choice.mp (meets x found)
      exact mem

end Lists

/-- The schema of the data of a type of node. -/
def NodeType.dataSchema : NodeType → Schema
  | .trigger => .triggerData
  | .state => .stateData
  | .condition => .conditionData
  | .action => .actionData
  | .delay => .delayData
  | .terminal => .endData

theorem NodeType.mem_nodeData (type : NodeType) :
    (type.name, type.dataSchema) ∈ Schema.nodeData := by
  cases type <;> simp [Schema.nodeData, name, dataSchema]

theorem NodeType.name_mem (type : NodeType) : type.name ∈ nodeTypeNames := by
  cases type <;> decide

/-- Only one schema stands under the name of a type. -/
theorem NodeType.eq_dataSchema {type : NodeType} {schema : Schema}
    (h : (type.name, schema) ∈ Schema.nodeData) : schema = type.dataSchema := by
  have distinct : (Schema.nodeData.map Prod.fst).Nodup := by decide
  have first := (Table.lookup_eq_some_iff distinct).mpr h
  rw [(Table.lookup_eq_some_iff distinct).mpr type.mem_nodeData] at first
  exact (Option.some.inj first).symm

theorem NodeType.exists_name_eq {name : String} (h : name ∈ nodeTypeNames) :
    ∃ type : NodeType, type.name = name := by
  have names : nodeTypeNames = NodeType.all.map NodeType.name := rfl
  rw [names] at h
  obtain ⟨type, -, same⟩ := List.mem_map.mp h
  exact ⟨type, same⟩

theorem NodeData.conforms_of_read {type : NodeType} {v : Value} {d : NodeData}
    (meets : type.dataSchema.Accepts v) (h : NodeData.read type v = .ok d) : d.Conforms := by
  cases type with
  | trigger =>
      obtain ⟨fields, rfl, parts⟩ := Schema.accepts_object.mp meets
      simp only [Schema.accepts_all_cons] at parts
      obtain ⟨-, conditions, -⟩ := parts
      obtain ⟨cs, readConditions, rest⟩ := bind_eq_ok.mp h
      cases rest
      exact Condition.conforms_of_readList conditions readConditions
  | state =>
      obtain ⟨fields, rfl, parts⟩ := Schema.accepts_object.mp meets
      simp only [Schema.accepts_all_cons] at parts
      obtain ⟨-, -, minutes, actions, -⟩ := parts
      obtain ⟨cs, -, rest⟩ := bind_eq_ok.mp h
      obtain ⟨as, readActions, rest⟩ := bind_eq_ok.mp rest
      obtain ⟨mandatory, -, rest⟩ := bind_eq_ok.mp rest
      cases rest
      exact ⟨Value.isCount_of_numberField? minutes,
        Action.conforms_of_readList actions readActions⟩
  | condition =>
      obtain ⟨fields, rfl, parts⟩ := Schema.accepts_object.mp meets
      simp only [Schema.accepts_all_cons] at parts
      obtain ⟨logic, conditions, -⟩ := parts
      obtain ⟨cs, readConditions, rest⟩ := bind_eq_ok.mp h
      cases rest
      exact ⟨Value.textField_mem logic (by decide),
        Condition.conforms_of_readList conditions readConditions⟩
  | action =>
      obtain ⟨fields, rfl, parts⟩ := Schema.accepts_object.mp meets
      simp only [Schema.accepts_all_cons] at parts
      obtain ⟨actions, -⟩ := parts
      obtain ⟨cs, -, rest⟩ := bind_eq_ok.mp h
      obtain ⟨as, readActions, rest⟩ := bind_eq_ok.mp rest
      cases rest
      exact Action.conforms_of_readList actions readActions
  | delay =>
      obtain ⟨fields, rfl, parts⟩ := Schema.accepts_object.mp meets
      simp only [Schema.accepts_all_cons] at parts
      obtain ⟨kind, minutes, -⟩ := parts
      obtain ⟨cs, -, rest⟩ := bind_eq_ok.mp h
      cases rest
      exact ⟨Value.textField_mem kind (by decide), Value.isCount_of_numberField? minutes⟩
  | terminal =>
      obtain ⟨fields, rfl, parts⟩ := Schema.accepts_object.mp meets
      obtain ⟨cs, -, rest⟩ := bind_eq_ok.mp h
      cases rest
      trivial

theorem NodeType.eq_name_of_read {name : String} {type : NodeType}
    (h : NodeType.read (.string name) = .ok type) : name = type.name := by
  unfold NodeType.read at h
  dsimp only at h
  split at h
  case h_1 found =>
    cases h
    have same := List.find?_some found
    exact (beq_iff_eq.mp same).symm
  case h_2 => cases h

theorem NodeType.read_name (type : NodeType) : NodeType.read (.string type.name) = .ok type := by
  rw [NodeType.read]
  simp [Value.asString?]

/-- The data of a node meet the schema of its type. -/
theorem Node.accepts_data {v data : Value} {type : NodeType} (meets : Schema.node.Accepts v)
    (type? : v.get? "type" = some (.string type.name)) (data? : v.get? "data" = some data) :
    type.dataSchema.Accepts data := by
  obtain ⟨fields, rfl, parts⟩ := Schema.accepts_object.mp meets
  simp only [Schema.accepts_all_cons] at parts
  obtain ⟨-, -, -, -, -, -, -, tagged, -⟩ := parts
  have tag := Schema.accepts_all.mp tagged _ (List.mem_map_of_mem type.mem_nodeData)
  refine Schema.accepts_field.mp (Schema.accepts_whenTag.mp tag fun found found? => ?_) data data?
  rw [type?] at found?
  exact (Option.some.inj found?).symm

theorem Node.conforms_of_read {key : String} {v : Value} {n : Node}
    (meets : Schema.node.Accepts v) (h : Node.read key v = .ok n) : n.Conforms key := by
  obtain ⟨fields, rfl, parts⟩ := Schema.accepts_object.mp meets
  simp only [Schema.accepts_all_cons] at parts
  obtain ⟨id, type, -, -, hasId, hasType, -⟩ := parts
  obtain ⟨x, id?, filled⟩ := Schema.exists_field hasId id
  obtain ⟨y, type?, known⟩ := Schema.exists_field hasType type
  obtain ⟨id, notEmpty, rfl⟩ := Schema.accepts_filledText.mp filled
  obtain ⟨name, -, rfl⟩ := Schema.accepts_choice.mp known
  rw [Node.read, Value.requireText_of_get? id?, ok_bind] at h
  split at h
  case isTrue => cases h
  case isFalse same =>
    rw [ne_eq, Decidable.not_not] at same
    subst same
    rw [Value.require_of_get? type?, ok_bind] at h
    obtain ⟨type, readType, h⟩ := bind_eq_ok.mp h
    obtain ⟨content, content?, h⟩ := bind_eq_ok.mp h
    obtain ⟨data, readData, h⟩ := bind_eq_ok.mp h
    cases h
    rw [NodeType.eq_name_of_read readType] at type?
    have meetsData := Node.accepts_data meets type? (Value.require_eq_ok.mp content?)
    exact ⟨rfl, notEmpty, NodeData.conforms_of_read meetsData readData⟩

theorem Transition.conforms_of_read {v : Value} {t : Transition}
    (meets : Schema.transition.Accepts v) (h : Transition.read v = .ok t) : t.Conforms := by
  obtain ⟨fields, rfl, parts⟩ := Schema.accepts_object.mp meets
  simp only [Schema.accepts_all_cons] at parts
  obtain ⟨id, -, -, -, -, conditions, actions, hasId, -⟩ := parts
  obtain ⟨x, id?, filled⟩ := Schema.exists_field hasId id
  obtain ⟨id, notEmpty, rfl⟩ := Schema.accepts_filledText.mp filled
  rw [Transition.read, Value.requireText_of_get? id?, ok_bind] at h
  obtain ⟨source, -, h⟩ := bind_eq_ok.mp h
  obtain ⟨target, -, h⟩ := bind_eq_ok.mp h
  obtain ⟨cs, readConditions, h⟩ := bind_eq_ok.mp h
  obtain ⟨as, readActions, h⟩ := bind_eq_ok.mp h
  cases h
  exact ⟨notEmpty, Condition.conforms_of_readList conditions readConditions,
    Action.conforms_of_readList actions readActions⟩

theorem Workflow.accepts_of_read {v : Value} {w : Workflow} (h : Workflow.read v = .ok w) :
    Schema.workflow.Accepts v ∧ Workflow.readFields v = .ok w := by
  obtain ⟨⟨⟩, checked, h⟩ := bind_eq_ok.mp h
  refine ⟨?_, h⟩
  rw [checkSchema] at checked
  split at checked
  case h_1 none => exact none
  case h_2 => cases checked

/-- Every workflow that was read conforms. -/
theorem Workflow.conforms_of_read {v : Value} {w : Workflow} (h : Workflow.read v = .ok w) :
    w.Conforms := by
  obtain ⟨meets, h⟩ := accepts_of_read h
  obtain ⟨fields, rfl, parts⟩ := Schema.accepts_object.mp meets
  simp only [Schema.accepts_all_cons] at parts
  obtain ⟨id, name, -, nodes, transitions, -, -, version, -, -, hasId, hasName, hasNodes,
    hasTransitions, -⟩ := parts
  obtain ⟨x, id?, filledId⟩ := Schema.exists_field hasId id
  obtain ⟨y, name?, filledName⟩ := Schema.exists_field hasName name
  obtain ⟨z, nodes?, accepted⟩ := Schema.exists_field hasNodes nodes
  obtain ⟨list, transitions?, listed⟩ := Schema.exists_field hasTransitions transitions
  obtain ⟨id, idNotEmpty, rfl⟩ := Schema.accepts_filledText.mp filledId
  obtain ⟨name, nameNotEmpty, rfl⟩ := Schema.accepts_filledText.mp filledName
  obtain ⟨items, rfl, eachItem⟩ := Schema.accepts_list.mp listed
  obtain ⟨-, eachNode⟩ := Schema.accepts_both.mp accepted
  rw [Schema.accepts_eachField] at eachNode
  rw [readFields] at h
  rw [nodes?, transitions?, Option.getD_some, Option.getD_some] at h
  obtain ⟨table, readTable, h⟩ := bind_eq_ok.mp h
  obtain ⟨ts, readTransitions, h⟩ := bind_eq_ok.mp h
  obtain ⟨created, -, h⟩ := bind_eq_ok.mp h
  obtain ⟨updated, -, h⟩ := bind_eq_ok.mp h
  cases h
  obtain ⟨entries, readEntries, table⟩ := bind_eq_ok.mp readTable
  cases table
  have version' : ((Value.object fields).numberField "version" 1).IsCount := by
    rw [Value.numberField]
    cases number : (Value.object fields).numberField? "version" with
    | none => exact Number.isCount_int (by decide)
    | some n => exact Value.isCount_of_numberField? version n number
  refine ⟨?_, ?_, version', ?_, ?_⟩
  · rw [Value.textField_of_get? id?]
    exact idNotEmpty
  · rw [Value.textField_of_get? name?]
    exact nameNotEmpty
  · intro e he
    obtain ⟨f, hf, readEntry⟩ := exists_of_mem_mapM readEntries (Table.mem_of_mem_ofList he)
    obtain ⟨n, readNode, entry⟩ := bind_eq_ok.mp readEntry
    cases entry
    exact Node.conforms_of_read (eachNode f hf) readNode
  · intro t ht
    obtain ⟨x, hx, readItem⟩ := exists_of_mem_mapM readTransitions ht
    exact Transition.conforms_of_read (eachItem x hx) readItem

end TicketFlow
