import TicketFlow.Proofs.Workflow.Conformance

/-!
# The grammar of workflow documents

A document described directly: which fields an object must have and which it may have, what
stands in them, and whether there may be others. The schema collects violations keyword by
keyword, and a keyword that speaks of one kind of value is silent about the others. It
accepts exactly the documents of the grammar.
-/

namespace TicketFlow

namespace Value

/-! ## Forms of values -/

def IsObject (v : Value) : Prop :=
  ∃ fields, v = .object fields

def IsText (v : Value) : Prop :=
  ∃ s, v = .string s

def IsFilledText (v : Value) : Prop :=
  ∃ s, s ≠ "" ∧ v = .string s

/-- One of some texts. -/
def IsOneOf (choices : List String) (v : Value) : Prop :=
  ∃ s ∈ choices, v = .string s

/-- A truth value, which is no number. -/
def IsTruth (v : Value) : Prop :=
  ∃ b, v = .bool b

/-- A number of either kind. -/
def IsNumber (v : Value) : Prop :=
  ∃ n, v = .number n

/-- A number of either kind that is whole and not negative. -/
def IsCount (v : Value) : Prop :=
  ∃ n : Number, n.IsCount ∧ v = .number n

/-- An array of values of a form. -/
def IsListOf (form : Value → Prop) (v : Value) : Prop :=
  ∃ items, v = .array items ∧ ∀ x ∈ items, form x

/-- A field is there, and its content is of a form. -/
def HasField (v : Value) (name : String) (form : Value → Prop) : Prop :=
  ∃ x, v.get? name = some x ∧ form x

/-- The content of a field, if it is there, is of a form. -/
def MayHave (v : Value) (name : String) (form : Value → Prop) : Prop :=
  ∀ x, v.get? name = some x → form x

/-- No field is there but those named. -/
def OnlyHas (v : Value) (names : List String) : Prop :=
  ∀ key ∈ v.fields.map Prod.fst, key ∈ names

/-! ## The grammar -/

@[mk_iff]
structure IsCondition (v : Value) : Prop where
  object : v.IsObject
  field : v.HasField "field" IsFilledText
  operator : v.HasField "operator" (IsOneOf conditionOperators)
  known : v.OnlyHas ["field", "operator", "value"]

@[mk_iff]
structure IsAction (v : Value) : Prop where
  object : v.IsObject
  type : v.HasField "type" IsFilledText
  extra : ∀ key ∈ actionExtraKeys, v.MayHave key IsText
  known : v.OnlyHas ("type" :: "value" :: actionExtraKeys)

@[mk_iff]
structure IsTriggerData (v : Value) : Prop where
  object : v.IsObject
  event : v.HasField "event" IsText
  conditions : v.MayHave "conditions" (IsListOf IsCondition)

@[mk_iff]
structure IsStateData (v : Value) : Prop where
  object : v.IsObject
  label : v.HasField "label" IsText
  color : v.MayHave "color" IsText
  slaMinutes : v.MayHave "slaMinutes" IsCount
  onEnterActions : v.MayHave "onEnterActions" (IsListOf IsAction)
  mandatoryFields : v.MayHave "mandatoryFields" (IsListOf IsText)

@[mk_iff]
structure IsConditionData (v : Value) : Prop where
  object : v.IsObject
  logic : v.MayHave "logic" (IsOneOf ["all", "any"])
  conditions : v.HasField "conditions" (IsListOf IsCondition)

@[mk_iff]
structure IsActionData (v : Value) : Prop where
  object : v.IsObject
  actions : v.MayHave "actions" (IsListOf IsAction)

@[mk_iff]
structure IsDelayData (v : Value) : Prop where
  object : v.IsObject
  type : v.HasField "type" (IsOneOf ["time", "event"])
  minutes : v.MayHave "minutes" IsCount
  event : v.MayHave "event" IsText

@[mk_iff]
structure IsEndData (v : Value) : Prop where
  object : v.IsObject
  label : v.MayHave "label" IsText

/-- The data of a type of node. -/
def IsDataOf : NodeType → Value → Prop
  | .trigger => IsTriggerData
  | .state => IsStateData
  | .condition => IsConditionData
  | .action => IsActionData
  | .delay => IsDelayData
  | .terminal => IsEndData

@[mk_iff]
structure IsPosition (v : Value) : Prop where
  object : v.IsObject
  x : v.HasField "x" IsNumber
  y : v.HasField "y" IsNumber

/-- A node names its type and has data of this type. -/
@[mk_iff]
structure IsNode (v : Value) : Prop where
  object : v.IsObject
  id : v.HasField "id" IsFilledText
  payload : ∃ type : NodeType,
    v.get? "type" = some (.string type.name) ∧ v.HasField "data" (IsDataOf type)
  position : v.MayHave "position" IsPosition

@[mk_iff]
structure IsTransition (v : Value) : Prop where
  object : v.IsObject
  id : v.HasField "id" IsFilledText
  fromNodeId : v.HasField "fromNodeId" IsText
  toNodeId : v.HasField "toNodeId" IsText
  label : v.MayHave "label" IsText
  branchKey : v.MayHave "branchKey" IsText
  conditions : v.MayHave "conditions" (IsListOf IsCondition)
  actions : v.MayHave "actions" (IsListOf IsAction)
  known : v.OnlyHas
    ["id", "fromNodeId", "toNodeId", "label", "branchKey", "conditions", "actions"]

/-- The nodes are the contents of an object, whatever their keys. -/
def HoldsNodes (v : Value) : Prop :=
  v.IsObject ∧ ∀ e ∈ v.fields, IsNode e.2

@[mk_iff]
structure IsDocument (v : Value) : Prop where
  object : v.IsObject
  id : v.HasField "id" IsFilledText
  name : v.HasField "name" IsFilledText
  nodes : v.HasField "nodes" HoldsNodes
  transitions : v.HasField "transitions" (IsListOf IsTransition)
  entryNodeId : v.HasField "entryNodeId" IsText
  description : v.MayHave "description" IsText
  enabled : v.MayHave "enabled" IsTruth
  version : v.MayHave "version" IsCount
  createdAt : v.MayHave "createdAt" IsText
  updatedAt : v.MayHave "updatedAt" IsText

end Value

namespace Schema

open Value

variable {v : Value} {name : String} {content : Schema} {form : Value → Prop}

/-! ## Schemas of forms -/

theorem accepts_isObject (v : Value) : (kind .object).Accepts v ↔ v.IsObject := by
  cases v <;> simp [Kind.accepts, IsObject]

theorem accepts_isTruth (v : Value) : (kind .boolean).Accepts v ↔ v.IsTruth := by
  cases v <;> simp [Kind.accepts, IsTruth]

theorem accepts_isNumber (v : Value) : (kind .number).Accepts v ↔ v.IsNumber := by
  cases v <;> simp [Kind.accepts, IsNumber]

theorem accepts_isText (v : Value) : text.Accepts v ↔ v.IsText :=
  accepts_text

theorem accepts_isFilledText (v : Value) : filledText.Accepts v ↔ v.IsFilledText :=
  accepts_filledText

theorem accepts_isCount (v : Value) : count.Accepts v ↔ v.IsCount :=
  accepts_count

/-- A double that is a whole number counts, a truth value does not. -/
example : count.Accepts (.number (.double (.ofInt 3))) ∧ ¬count.Accepts (.bool true) := by
  decide +kernel

theorem accepts_isOneOf {choices : List String} (v : Value) :
    (choice choices).Accepts v ↔ v.IsOneOf choices :=
  accepts_choice

theorem accepts_isListOf (h : ∀ x, content.Accepts x ↔ form x) (v : Value) :
    (both (.kind .array) (.eachItem content)).Accepts v ↔ v.IsListOf form := by
  simp only [accepts_list, IsListOf, h]

/-- A schema that begins with the kind of objects is about objects only. -/
theorem accepts_all_object {schemas : List Schema} :
    (all (.kind .object :: schemas)).Accepts v ↔ v.IsObject ∧ (all schemas).Accepts v := by
  rw [accepts_all_cons, accepts_isObject]

theorem mayHave_iff (h : ∀ x, content.Accepts x ↔ form x) :
    v.MayHave name form ↔ (field name content).Accepts v := by
  simp only [MayHave, accepts_field, h]

/-- On an object a field is there and of a form if two requirements say so. -/
theorem hasField_iff (object : v.IsObject) (h : ∀ x, content.Accepts x ↔ form x) :
    v.HasField name form ↔ (field name content).Accepts v ∧ (required name).Accepts v := by
  obtain ⟨fields, rfl⟩ := object
  constructor
  · rintro ⟨x, found, isForm⟩
    exact ⟨accepts_field_of_get? found ((h x).mpr isForm), accepts_required.mpr ⟨x, found⟩⟩
  · rintro ⟨meets, there⟩
    obtain ⟨x, found, accepted⟩ := exists_field there meets
    exact ⟨x, found, (h x).mp accepted⟩

theorem onlyHas_iff {names : List String} : v.OnlyHas names ↔ (closed names).Accepts v :=
  accepts_closed.symm

/-! ## Schemas of the parts of a document

The kind of objects comes first in each of them. On an object the requirements are those of
the grammar, in another order. -/

theorem accepts_isCondition (v : Value) : condition.Accepts v ↔ v.IsCondition := by
  rw [condition, accepts_all_object, isCondition_iff]
  apply and_congr_right
  intro object
  rw [hasField_iff object accepts_isFilledText, hasField_iff object accepts_isOneOf, onlyHas_iff]
  simp only [accepts_all_cons, accepts_all_nil]
  tauto

theorem accepts_isAction (v : Value) : action.Accepts v ↔ v.IsAction := by
  have extra : (all (actionExtraKeys.map fun key => .field key text)).Accepts v ↔
      ∀ key ∈ actionExtraKeys, v.MayHave key IsText := by
    simp only [accepts_all, List.forall_mem_map, mayHave_iff accepts_isText]
  rw [action, accepts_all_object, isAction_iff]
  apply and_congr_right
  intro object
  rw [hasField_iff object accepts_isFilledText, onlyHas_iff]
  simp only [accepts_all_cons, accepts_all_nil, extra]
  tauto

theorem accepts_isConditionList (v : Value) : conditionList.Accepts v ↔ v.IsListOf IsCondition :=
  accepts_isListOf accepts_isCondition v

theorem accepts_isActionList (v : Value) : actionList.Accepts v ↔ v.IsListOf IsAction :=
  accepts_isListOf accepts_isAction v

theorem accepts_isTriggerData (v : Value) : triggerData.Accepts v ↔ v.IsTriggerData := by
  rw [triggerData, accepts_all_object, isTriggerData_iff]
  apply and_congr_right
  intro object
  rw [hasField_iff object accepts_isText, mayHave_iff accepts_isConditionList]
  simp only [accepts_all_cons, accepts_all_nil]
  tauto

theorem accepts_isStateData (v : Value) : stateData.Accepts v ↔ v.IsStateData := by
  rw [stateData, accepts_all_object, isStateData_iff]
  apply and_congr_right
  intro object
  rw [hasField_iff object accepts_isText, mayHave_iff accepts_isText, mayHave_iff accepts_isCount,
    mayHave_iff accepts_isActionList, mayHave_iff (accepts_isListOf accepts_isText)]
  simp only [accepts_all_cons, accepts_all_nil]
  tauto

theorem accepts_isConditionData (v : Value) : conditionData.Accepts v ↔ v.IsConditionData := by
  rw [conditionData, accepts_all_object, isConditionData_iff]
  apply and_congr_right
  intro object
  rw [mayHave_iff accepts_isOneOf, hasField_iff object accepts_isConditionList]
  simp only [accepts_all_cons, accepts_all_nil]
  tauto

theorem accepts_isActionData (v : Value) : actionData.Accepts v ↔ v.IsActionData := by
  rw [actionData, accepts_all_object, isActionData_iff, mayHave_iff accepts_isActionList]
  simp only [accepts_all_cons, accepts_all_nil, and_true]

theorem accepts_isDelayData (v : Value) : delayData.Accepts v ↔ v.IsDelayData := by
  rw [delayData, accepts_all_object, isDelayData_iff]
  apply and_congr_right
  intro object
  rw [hasField_iff object accepts_isOneOf, mayHave_iff accepts_isCount,
    mayHave_iff accepts_isText]
  simp only [accepts_all_cons, accepts_all_nil]
  tauto

theorem accepts_isEndData (v : Value) : endData.Accepts v ↔ v.IsEndData := by
  rw [endData, accepts_all_object, isEndData_iff, mayHave_iff accepts_isText]
  simp only [accepts_all_cons, accepts_all_nil, and_true]

theorem accepts_isDataOf (type : NodeType) (v : Value) :
    type.dataSchema.Accepts v ↔ v.IsDataOf type := by
  cases type with
  | trigger => exact accepts_isTriggerData v
  | state => exact accepts_isStateData v
  | condition => exact accepts_isConditionData v
  | action => exact accepts_isActionData v
  | delay => exact accepts_isDelayData v
  | terminal => exact accepts_isEndData v

theorem accepts_isPosition (v : Value) : position.Accepts v ↔ v.IsPosition := by
  rw [position, accepts_all_object, isPosition_iff]
  apply and_congr_right
  intro object
  rw [hasField_iff object accepts_isNumber, hasField_iff object accepts_isNumber]
  simp only [accepts_all_cons, accepts_all_nil]
  tauto

theorem accepts_isTransition (v : Value) : transition.Accepts v ↔ v.IsTransition := by
  rw [transition, accepts_all_object, isTransition_iff]
  apply and_congr_right
  intro object
  rw [hasField_iff object accepts_isFilledText, hasField_iff object accepts_isText,
    hasField_iff object accepts_isText, mayHave_iff accepts_isText, mayHave_iff accepts_isText,
    mayHave_iff accepts_isConditionList, mayHave_iff accepts_isActionList, onlyHas_iff]
  simp only [accepts_all_cons, accepts_all_nil]
  tauto

/-! ## Nodes -/

/-- Of the conditional parts of the schema of nodes only the one of the type at hand counts. -/
theorem accepts_tagged_iff {type : NodeType} (type? : v.get? "type" = some (.string type.name)) :
    (all (nodeData.map fun d => .whenTag "type" d.1 (.field "data" d.2))).Accepts v ↔
      v.MayHave "data" (IsDataOf type) := by
  rw [mayHave_iff (accepts_isDataOf type), accepts_all, List.forall_mem_map]
  constructor
  · intro tagged
    apply accepts_whenTag.mp (tagged _ type.mem_nodeData)
    intro found found?
    rw [type?] at found?
    exact (Option.some.inj found?).symm
  · intro meets d mem
    apply accepts_whenTag.mpr
    intro only
    have same : type.name = d.1 := Value.string.inj (only _ type?)
    have schema : d.2 = type.dataSchema := NodeType.eq_dataSchema (same ▸ mem)
    rw [schema]
    exact meets

theorem data_isObject {type : NodeType} {data : Value} (h : data.IsDataOf type) :
    data.IsObject := by
  cases type <;> exact h.object

/-- A node without a type satisfies every conditional part, but it lacks the type; with one,
its data are of this type. -/
theorem payload_iff (object : v.IsObject) :
    (∃ type : NodeType,
      v.get? "type" = some (.string type.name) ∧ v.HasField "data" (IsDataOf type)) ↔
    ((field "type" (choice nodeTypeNames)).Accepts v ∧ (required "type").Accepts v) ∧
      ((field "data" (.kind .object)).Accepts v ∧ (required "data").Accepts v) ∧
      (all (nodeData.map fun d => .whenTag "type" d.1 (.field "data" d.2))).Accepts v := by
  rw [← hasField_iff object accepts_isOneOf, ← hasField_iff object accepts_isObject]
  constructor
  · rintro ⟨type, type?, data, data?, isData⟩
    have mayHave : v.MayHave "data" (IsDataOf type) := by
      intro found found?
      rw [data?, Option.some.injEq] at found?
      rwa [← found?]
    exact ⟨⟨_, type?, _, type.name_mem, rfl⟩, ⟨data, data?, data_isObject isData⟩,
      (accepts_tagged_iff type?).mpr mayHave⟩
  · rintro ⟨⟨_, type?, name, known, rfl⟩, ⟨data, data?, -⟩, tagged⟩
    obtain ⟨type, rfl⟩ := NodeType.exists_name_eq known
    exact ⟨type, type?, data, data?, (accepts_tagged_iff type?).mp tagged data data?⟩

theorem accepts_isNode (v : Value) : node.Accepts v ↔ v.IsNode := by
  rw [node, accepts_all_object, isNode_iff]
  apply and_congr_right
  intro object
  rw [hasField_iff object accepts_isFilledText, payload_iff object,
    mayHave_iff accepts_isPosition]
  simp only [accepts_all_cons, accepts_all_nil]
  tauto

theorem accepts_holdsNodes (v : Value) :
    (both (.kind .object) (.eachField node)).Accepts v ↔ v.HoldsNodes := by
  rw [accepts_both, accepts_isObject, accepts_eachField, HoldsNodes]
  simp only [accepts_isNode]

theorem accepts_isDocument (v : Value) : workflow.Accepts v ↔ v.IsDocument := by
  rw [workflow, accepts_all_object, isDocument_iff]
  apply and_congr_right
  intro object
  rw [hasField_iff object accepts_isFilledText, hasField_iff object accepts_isFilledText,
    hasField_iff object accepts_holdsNodes,
    hasField_iff object (accepts_isListOf accepts_isTransition),
    hasField_iff object accepts_isText, mayHave_iff accepts_isText, mayHave_iff accepts_isTruth,
    mayHave_iff accepts_isCount, mayHave_iff accepts_isText, mayHave_iff accepts_isText]
  simp only [accepts_all_cons, accepts_all_nil]
  tauto

end Schema

namespace Value

/-! ## Unknown keys -/

/-- Whether an object is of a form is a matter of the named fields alone. -/
def IsOpen (form : Value → Prop) (names : List String) : Prop :=
  ∀ fields others, (∀ e ∈ others, e.1 ∉ names) →
    (form (.object (fields ++ others)) ↔ form (.object fields))

/-- Whatever is of a form has none but the named fields. -/
def IsClosed (form : Value → Prop) (names : List String) : Prop :=
  ∀ v, form v → v.OnlyHas names

/-- The fields of a document that the schema knows. -/
def documentKeys : List String :=
  ["id", "name", "description", "nodes", "transitions", "entryNodeId", "enabled", "version",
    "createdAt", "updatedAt"]

/-- The fields of the data of a type of node that the schema knows. -/
def dataKeys : NodeType → List String
  | .trigger => ["event", "conditions"]
  | .state => ["label", "color", "slaMinutes", "onEnterActions", "mandatoryFields"]
  | .condition => ["logic", "conditions"]
  | .action => ["actions"]
  | .delay => ["type", "minutes", "event"]
  | .terminal => ["label"]

variable {fields others : List (String × Value)} {names : List String} {name : String}

/-- Other fields do not stand in the way of a named one. -/
theorem get?_append (unknown : ∀ e ∈ others, e.1 ∉ names) (mem : name ∈ names) :
    (object (fields ++ others)).get? name = (object fields).get? name := by
  have absent : name ∉ others.map Prod.fst := by
    intro found
    obtain ⟨e, he, rfl⟩ := List.mem_map.mp found
    exact unknown e he mem
  rw [get?, fields_object, Table.lookup_append, Table.lookup_eq_none_of_not_mem absent,
    Option.or_none]
  rfl

/-- A form that looks at the named fields alone is open. -/
theorem isOpen_of_get? {form : Value → Prop}
    (alike : ∀ fields fields', (∀ name ∈ names, (object fields).get? name =
      (object fields').get? name) → (form (.object fields) ↔ form (.object fields'))) :
    IsOpen form names :=
  fun _ _ unknown => alike _ _ fun _ mem => get?_append unknown mem

theorem isOpen_isPosition : IsOpen IsPosition ["x", "y"] := by
  apply isOpen_of_get?
  intro fields fields' same
  simp only [List.forall_mem_cons] at same
  simp [isPosition_iff, IsObject, HasField, same]

theorem isOpen_isNode : IsOpen IsNode ["id", "type", "data", "position"] := by
  apply isOpen_of_get?
  intro fields fields' same
  simp only [List.forall_mem_cons] at same
  simp [isNode_iff, IsObject, HasField, MayHave, same]

theorem isOpen_isDataOf (type : NodeType) : IsOpen (IsDataOf type) (dataKeys type) := by
  apply isOpen_of_get?
  intro fields fields' same
  cases type <;> simp only [dataKeys, List.forall_mem_cons] at same <;>
    simp [IsDataOf, isTriggerData_iff, isStateData_iff, isConditionData_iff, isActionData_iff,
      isDelayData_iff, isEndData_iff, IsObject, HasField, MayHave, same]

theorem isOpen_isDocument : IsOpen IsDocument documentKeys := by
  apply isOpen_of_get?
  intro fields fields' same
  simp only [documentKeys, List.forall_mem_cons] at same
  simp [isDocument_iff, IsObject, HasField, MayHave, same]

end Value

theorem Workflow.checkSchema_eq_ok {v : Value} :
    checkSchema v = .ok () ↔ Schema.workflow.Accepts v := by
  rw [checkSchema, Schema.Accepts]
  cases Schema.workflow.violations v <;> simp

/-- The schema accepts exactly the documents of the grammar, and so does the check of a
document. Unknown fields are allowed in documents, nodes, data and positions, where they make
no difference, and nowhere else. -/
theorem Workflow.checkSchema_iff_isDocument :
    (∀ v : Value, (Schema.workflow.violations v = [] ↔ v.IsDocument) ∧
      (checkSchema v = .ok () ↔ v.IsDocument)) ∧
    (Value.IsOpen Value.IsDocument Value.documentKeys ∧
      Value.IsOpen Value.IsNode ["id", "type", "data", "position"] ∧
      (∀ type, Value.IsOpen (Value.IsDataOf type) (Value.dataKeys type)) ∧
      Value.IsOpen Value.IsPosition ["x", "y"]) ∧
    Value.IsClosed Value.IsCondition ["field", "operator", "value"] ∧
    Value.IsClosed Value.IsAction ("type" :: "value" :: actionExtraKeys) ∧
    Value.IsClosed Value.IsTransition
      ["id", "fromNodeId", "toNodeId", "label", "branchKey", "conditions", "actions"] := by
  refine ⟨fun v => ⟨Schema.accepts_isDocument v, ?_⟩, ?opened, ?closed⟩
  · exact checkSchema_eq_ok.trans (Schema.accepts_isDocument v)
  case opened =>
    exact ⟨Value.isOpen_isDocument, Value.isOpen_isNode, Value.isOpen_isDataOf,
      Value.isOpen_isPosition⟩
  case closed =>
    exact ⟨fun _ h => h.known, fun _ h => h.known, fun _ h => h.known⟩

end TicketFlow
