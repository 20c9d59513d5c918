import TicketFlow.Proofs.Workflow.Conformance

/-!
# Which documents are read

A document is read or refused in two passes: the schema looks at all of it first, and
what the readers of the parts find is taken as it is. The schema of a type of node says
nothing of the fields that the type does not know, but conditions are read for every type.
These stray conditions are the only thing that the readers can stumble over behind the
schema: whatever else is wrong with a document is reported as an error of the document.
-/

namespace TicketFlow

open Fallible

namespace Value

variable {v : Value} {name : String} {content : Schema} {e : ReadError}

/-- The value can be read as a condition: it is an object with a field and an operator. -/
def IsTest (v : Value) : Prop :=
  ∃ fields, v = .object fields ∧ (∃ x, v.get? "field" = some x) ∧ ∃ x, v.get? "operator" = some x

/-- What stands under a name can be read as a list of conditions, or nothing does. -/
def HasTests (v : Value) (name : String) : Prop :=
  ∀ found, v.get? name = some found → ∃ items, found.elements? = some items ∧ ∀ x ∈ items, x.IsTest

theorem exists_requireText :
    (∃ s, v.requireText name = .ok s) ↔ ∃ x, v.get? name = some x := by
  rw [requireText, exists_map_eq_ok]
  simp only [require_eq_ok]

theorem requireText_eq_error (h : v.requireText name = .error e) : e = .missingKey name := by
  rw [requireText, map_eq_error, require] at h
  cases found : v.get? name <;> simp_all

/-- A list that meets its schema can be gone through. -/
theorem exists_listField_of_accepts
    (meets : (Schema.field name (.both (.kind .array) (.eachItem content))).Accepts v) :
    ∃ items, v.listField name = .ok items := by
  rw [listField]
  cases found : v.get? name with
  | none => exact ⟨[], rfl⟩
  | some x =>
      obtain ⟨items, rfl, -⟩ := Schema.accepts_list.mp (Schema.accepts_field.mp meets x found)
      exact ⟨items, rfl⟩

theorem isTest_of_accepts (meets : Schema.condition.Accepts v) : v.IsTest := by
  obtain ⟨fields, rfl, parts⟩ := Schema.accepts_object.mp meets
  simp only [Schema.accepts_all_cons] at parts
  obtain ⟨-, -, field, operator, -⟩ := parts
  exact ⟨fields, rfl, Schema.accepts_required.mp field, Schema.accepts_required.mp operator⟩

/-- A list of conditions that meets its schema can be read. -/
theorem hasTests_of_accepts (meets : (Schema.field name .conditionList).Accepts v) :
    v.HasTests name := by
  intro found there
  have list := Schema.accepts_field.mp meets found there
  obtain ⟨items, rfl, accepted⟩ := Schema.accepts_list.mp list
  exact ⟨items, rfl, fun x hx => isTest_of_accepts (accepted x hx)⟩

end Value

namespace Condition

variable {v : Value} {name : String} {e : ReadError}

theorem exists_read : (∃ c, read v = .ok c) ↔ v.IsTest := by
  cases v with
  | object fields =>
      simp only [read, bind_eq_ok, pure_eq_ok, Value.IsTest]
      rw [← Value.exists_requireText, ← Value.exists_requireText]
      simp
  | _ => simp [read, Value.IsTest]

theorem exists_readList : (∃ cs, readList v name = .ok cs) ↔ v.HasTests name := by
  simp only [readList, Value.listField, Value.HasTests]
  cases v.get? name with
  | none => simp [pure, Except.pure]
  | some found =>
      simp only [Option.some.injEq, forall_eq']
      cases found.elements? with
      | none => simp
      | some items => simp [exists_mapM_eq_ok, exists_read]

theorem isDefinition_of_read (h : read v = .error e) : e.isDefinition = false := by
  cases v with
  | object fields =>
      rcases bind_eq_error.mp h with fails | ⟨field, -, rest⟩
      · rw [Value.requireText_eq_error fails]
        rfl
      · rcases bind_eq_error.mp rest with fails | ⟨operator, -, rest⟩
        · rw [Value.requireText_eq_error fails]
          rfl
        · cases rest
  | _ =>
      cases h
      rfl

/-- Conditions that cannot be read do not count as an error of the document. -/
theorem isDefinition_of_readList (h : readList v name = .error e) : e.isDefinition = false := by
  rcases bind_eq_error.mp h with fails | ⟨items, -, fails⟩
  · rw [Value.listField] at fails
    split at fails
    · cases fails
    · split at fails
      · cases fails
      · cases fails
        rfl
  · obtain ⟨-, x, -, -, -, fails⟩ := mapM_eq_error.mp fails
    exact isDefinition_of_read fails

end Condition

namespace Action

variable {v : Value} {name : String}

theorem exists_read_of_accepts (meets : Schema.action.Accepts v) : ∃ a, read v = .ok a := by
  obtain ⟨fields, rfl, parts⟩ := Schema.accepts_object.mp meets
  simp only [Schema.accepts_all_cons] at parts
  obtain ⟨-, -, kind, -⟩ := parts
  obtain ⟨kind, there⟩ := Value.exists_requireText.mpr (Schema.accepts_required.mp kind)
  rw [read, there]
  exact ⟨_, rfl⟩

theorem exists_readList_of_accepts (meets : (Schema.field name .actionList).Accepts v) :
    ∃ as, readList v name = .ok as := by
  obtain ⟨items, list⟩ := Value.exists_listField_of_accepts meets
  rw [readList, list, ok_bind]
  exact exists_mapM_eq_ok.mpr fun x hx =>
    exists_read_of_accepts (Value.mem_listField meets list x hx)

end Action

/-- Of data that meet the schema of their type only the conditions can fail to be read. -/
theorem NodeData.read_of_accepts {type : NodeType} {v : Value}
    (meets : type.dataSchema.Accepts v) :
    ∃ build, NodeData.read type v = (Condition.readList v "conditions").map build := by
  cases type with
  | state =>
      obtain ⟨fields, rfl, parts⟩ := Schema.accepts_object.mp meets
      simp only [Schema.accepts_all_cons] at parts
      obtain ⟨-, -, -, actions, mandatory, -⟩ := parts
      obtain ⟨as, readActions⟩ := Action.exists_readList_of_accepts actions
      obtain ⟨items, list⟩ := Value.exists_listField_of_accepts mandatory
      rw [NodeData.read, readActions, list]
      exact ⟨fun _ => _, rfl⟩
  | action =>
      obtain ⟨fields, rfl, parts⟩ := Schema.accepts_object.mp meets
      simp only [Schema.accepts_all_cons] at parts
      obtain ⟨as, readActions⟩ := Action.exists_readList_of_accepts parts.1
      rw [NodeData.read, readActions]
      exact ⟨fun _ => _, rfl⟩
  | trigger | condition | delay | terminal =>
      obtain ⟨fields, rfl, -⟩ := Schema.accepts_object.mp meets
      exact ⟨fun _ => _, rfl⟩

namespace Value

/-- The node is stored under its own id. -/
def IsKeyed (key : String) (node : Value) : Prop :=
  node.get? "id" = some (.string key)

/-- The types of nodes of which the schema does not speak of conditions. -/
def plainTypes : List NodeType :=
  [.state, .action, .delay, .terminal]

/-- The data of the node, which is of a type that knows no conditions, bring some along all
the same, and these cannot be read. -/
def HasStrayConditions (node : Value) : Prop :=
  ∃ type ∈ plainTypes, node.get? "type" = some (.string type.name) ∧
    ∃ data, node.get? "data" = some data ∧ ¬data.HasTests "conditions"

end Value

/-- The types whose schema speaks of conditions demand that they can be read. -/
theorem NodeType.hasTests_of_accepts {type : NodeType} {data : Value}
    (meets : type.dataSchema.Accepts data) (known : type ∉ Value.plainTypes) :
    data.HasTests "conditions" := by
  cases type with
  | trigger | condition =>
      obtain ⟨fields, rfl, parts⟩ := Schema.accepts_object.mp meets
      simp only [Schema.accepts_all_cons] at parts
      exact Value.hasTests_of_accepts parts.2.1
  | _ => exact absurd (by decide) known

namespace Node

variable {key : String} {v : Value}

theorem read_of_not_isKeyed (meets : Schema.node.Accepts v) (foreign : ¬v.IsKeyed key) :
    ∃ id, read key v = .error (.keyMismatch key id) := by
  obtain ⟨fields, rfl, parts⟩ := Schema.accepts_object.mp meets
  simp only [Schema.accepts_all_cons] at parts
  obtain ⟨id, -, -, -, hasId, -⟩ := parts
  obtain ⟨x, id?, filled⟩ := Schema.exists_field hasId id
  obtain ⟨id, -, rfl⟩ := Schema.accepts_filledText.mp filled
  have other : id ≠ key := fun same => foreign (same ▸ id?)
  rw [read, Value.requireText_of_get? id?, ok_bind, if_pos other]
  exact ⟨id, rfl⟩

/-- Of a node that meets the schema and is stored under its id only conditions can fail to
be read, and only those of a type that knows none. -/
theorem read_of_isKeyed (meets : Schema.node.Accepts v) (keyed : v.IsKeyed key) :
    ∃ data build, (data.HasTests "conditions" ↔ ¬v.HasStrayConditions) ∧
      read key v = (Condition.readList data "conditions").map build := by
  obtain ⟨fields, rfl, parts⟩ := Schema.accepts_object.mp meets
  simp only [Schema.accepts_all_cons] at parts
  obtain ⟨-, type, data, -, -, hasType, hasData, -⟩ := parts
  obtain ⟨y, type?, known⟩ := Schema.exists_field hasType type
  obtain ⟨data, data?, -⟩ := Schema.exists_field hasData data
  obtain ⟨name, mem, rfl⟩ := Schema.accepts_choice.mp known
  obtain ⟨type, rfl⟩ := NodeType.exists_name_eq mem
  have meetsData := accepts_data meets type? data?
  obtain ⟨build, readData⟩ := NodeData.read_of_accepts meetsData
  have tests : data.HasTests "conditions" ↔ ¬(Value.object fields).HasStrayConditions := by
    constructor
    · rintro tests ⟨-, -, -, data', data'?, unreadable⟩
      obtain rfl := Option.some.inj (data?.symm.trans data'?)
      exact unreadable tests
    · intro clean
      by_contra unreadable
      have plain : type ∈ Value.plainTypes := by
        by_contra known
        exact unreadable (type.hasTests_of_accepts meetsData known)
      exact clean ⟨type, plain, type?, data, data?, unreadable⟩
  let position := Position.read (((Value.object fields).get? "position").getD (.object []))
  refine ⟨data, fun cs => ⟨key, build cs, position⟩, tests, ?_⟩
  rw [read, Value.requireText_of_get? keyed, ok_bind, if_neg (Decidable.not_not.mpr rfl),
    Value.require_of_get? type?, ok_bind, NodeType.read_name, ok_bind,
    Value.require_of_get? data?, ok_bind, readData]
  cases Condition.readList data "conditions" <;> rfl

theorem exists_read (meets : Schema.node.Accepts v) :
    (∃ n, read key v = .ok n) ↔ v.IsKeyed key ∧ ¬v.HasStrayConditions := by
  by_cases keyed : v.IsKeyed key
  · obtain ⟨data, build, tests, shape⟩ := read_of_isKeyed meets keyed
    rw [shape, exists_map_eq_ok, Condition.exists_readList, tests]
    exact (and_iff_right keyed).symm
  · obtain ⟨id, fails⟩ := read_of_not_isKeyed meets keyed
    simp [fails, keyed]

theorem exists_read_error (meets : Schema.node.Accepts v) :
    (∃ e, read key v = .error e ∧ e.isDefinition = false) ↔
      v.IsKeyed key ∧ v.HasStrayConditions := by
  by_cases keyed : v.IsKeyed key
  · obtain ⟨data, build, tests, shape⟩ := read_of_isKeyed meets keyed
    rw [and_iff_right keyed, ← not_iff_not, ← tests, ← Condition.exists_readList, shape]
    cases result : Condition.readList data "conditions" with
    | ok cs => simp
    | error e => simp [Except.map, Condition.isDefinition_of_readList result]
  · obtain ⟨id, fails⟩ := read_of_not_isKeyed meets keyed
    simp [fails, keyed, ReadError.isDefinition]

end Node

theorem Transition.exists_read_of_accepts {v : Value} (meets : Schema.transition.Accepts v) :
    ∃ t, Transition.read v = .ok t := by
  obtain ⟨fields, rfl, parts⟩ := Schema.accepts_object.mp meets
  simp only [Schema.accepts_all_cons] at parts
  obtain ⟨-, -, -, -, -, conditions, actions, id, source, target, -⟩ := parts
  obtain ⟨id, readId⟩ := Value.exists_requireText.mpr (Schema.accepts_required.mp id)
  obtain ⟨source, readSource⟩ := Value.exists_requireText.mpr (Schema.accepts_required.mp source)
  obtain ⟨target, readTarget⟩ := Value.exists_requireText.mpr (Schema.accepts_required.mp target)
  have tests := Value.hasTests_of_accepts conditions
  obtain ⟨cs, readConditions⟩ := Condition.exists_readList.mpr tests
  obtain ⟨as, readActions⟩ := Action.exists_readList_of_accepts actions
  rw [Transition.read, readId, readSource, readTarget, readConditions, readActions]
  exact ⟨_, rfl⟩

namespace Value

variable (doc : Value)

/-- The nodes of a document, each under its key. -/
def nodeFields : List (String × Value) :=
  ((doc.get? "nodes").getD .null).fields

/-- Every node of the document is stored under its own id. -/
def NodesKeyed : Prop :=
  ∀ f ∈ doc.nodeFields, f.2.IsKeyed f.1

/-- No node of the document has stray conditions. -/
def StrayFree : Prop :=
  ∀ f ∈ doc.nodeFields, ¬f.2.HasStrayConditions

/-- A node of the document has stray conditions, and no node before it has any or is stored
under a key that is not its id, nor is it itself. -/
def StraysFirst : Prop :=
  ∃ before f after, doc.nodeFields = before ++ f :: after ∧
    (∀ g ∈ before, g.2.IsKeyed g.1 ∧ ¬g.2.HasStrayConditions) ∧
      f.2.IsKeyed f.1 ∧ f.2.HasStrayConditions

/-- The two timestamps of the document, as far as there are any, are timestamps. -/
def StampsReadable : Prop :=
  ∀ name ∈ ["createdAt", "updatedAt"], ∀ s, doc.get? name = some (.string s) →
    s = "" ∨ ∃ t, Timestamp.ofText? s = some t

end Value

namespace Timestamp

theorem exists_readText {s : String} :
    (∃ t, readText s = .ok t) ↔ s = "" ∨ ∃ t, ofText? s = some t := by
  rw [readText]
  split
  case isTrue empty => simp [empty]
  case isFalse filled => cases ofText? s <;> simp [filled]

theorem isDefinition_of_readText {s : String} {e : ReadError} (h : readText s = .error e) :
    e.isDefinition = true := by
  rw [readText] at h
  split at h
  · cases h
  · split at h
    · cases h
    · cases h
      rfl

end Timestamp

namespace Workflow

variable {doc nodes : Value}

theorem readNodes_eq : readNodes nodes =
    (nodes.fields.mapM fun f => (Node.read f.1 f.2).map fun n => (f.1, n)).map Table.ofList := by
  have entry : (fun f : String × Value => do return (f.1, ← Node.read f.1 f.2)) =
      fun f => (Node.read f.1 f.2).map fun n => (f.1, n) := by
    funext f
    cases Node.read f.1 f.2 <;> rfl
  rw [readNodes, entry]
  cases nodes.fields.mapM fun f => (Node.read f.1 f.2).map fun n => (f.1, n) <;> rfl

theorem exists_readNodes (meets : ∀ f ∈ nodes.fields, Schema.node.Accepts f.2) :
    (∃ table, readNodes nodes = .ok table) ↔
      ∀ f ∈ nodes.fields, f.2.IsKeyed f.1 ∧ ¬f.2.HasStrayConditions := by
  rw [readNodes_eq, exists_map_eq_ok, exists_mapM_eq_ok]
  refine forall₂_congr fun f hf => ?_
  rw [exists_map_eq_ok, Node.exists_read (meets f hf)]

theorem exists_readNodes_error (meets : ∀ f ∈ nodes.fields, Schema.node.Accepts f.2) :
    (∃ e, readNodes nodes = .error e ∧ e.isDefinition = false) ↔
      ∃ before f after, nodes.fields = before ++ f :: after ∧
        (∀ g ∈ before, g.2.IsKeyed g.1 ∧ ¬g.2.HasStrayConditions) ∧
          f.2.IsKeyed f.1 ∧ f.2.HasStrayConditions := by
  simp only [readNodes_eq, map_eq_error, mapM_eq_error, exists_map_eq_ok]
  constructor
  · rintro ⟨e, ⟨before, f, after, parts, oks, fails⟩, undefined⟩
    rw [parts] at meets
    refine ⟨before, f, after, parts, fun g hg => ?_, ?_⟩
    · exact (Node.exists_read (meets g (List.mem_append_left _ hg))).mp (oks g hg)
    · exact (Node.exists_read_error (meets f (List.mem_append_right _ List.mem_cons_self))).mp
        ⟨e, fails, undefined⟩
  · rintro ⟨before, f, after, parts, sound, stray⟩
    rw [parts] at meets
    obtain ⟨e, fails, undefined⟩ := (Node.exists_read_error
      (meets f (List.mem_append_right _ List.mem_cons_self))).mpr stray
    refine ⟨e, ⟨before, f, after, parts, fun g hg => ?_, fails⟩, undefined⟩
    exact (Node.exists_read (meets g (List.mem_append_left _ hg))).mpr (sound g hg)

theorem accepts_nodeFields (meets : Schema.workflow.Accepts doc) :
    ∀ f ∈ doc.nodeFields, Schema.node.Accepts f.2 := by
  obtain ⟨fields, rfl, parts⟩ := Schema.accepts_object.mp meets
  simp only [Schema.accepts_all_cons] at parts
  obtain ⟨-, -, -, nodes, -, -, -, -, -, -, -, -, hasNodes, -⟩ := parts
  obtain ⟨x, nodes?, accepted⟩ := Schema.exists_field hasNodes nodes
  rw [Value.nodeFields, nodes?, Option.getD_some]
  exact Schema.accepts_eachField.mp (Schema.accepts_both.mp accepted).2

theorem exists_readTransitions (meets : Schema.workflow.Accepts doc) :
    ∃ ts, ((doc.get? "transitions").getD .null).items.mapM Transition.read = .ok ts := by
  obtain ⟨fields, rfl, parts⟩ := Schema.accepts_object.mp meets
  simp only [Schema.accepts_all_cons] at parts
  obtain ⟨-, -, -, -, transitions, -, -, -, -, -, -, -, -, hasTransitions, -⟩ := parts
  obtain ⟨x, transitions?, listed⟩ := Schema.exists_field hasTransitions transitions
  obtain ⟨items, rfl, eachItem⟩ := Schema.accepts_list.mp listed
  rw [transitions?, Option.getD_some]
  exact exists_mapM_eq_ok.mpr fun x hx => Transition.exists_read_of_accepts (eachItem x hx)

/-- A timestamp of an accepted document is absent or a text, so its text is read exactly
when every text there is a timestamp or empty. -/
theorem exists_readStamps : ((∃ t, Timestamp.readText (doc.textField "createdAt" "") = .ok t) ∧
    ∃ t, Timestamp.readText (doc.textField "updatedAt" "") = .ok t) ↔ doc.StampsReadable := by
  have stamp : ∀ name, (∃ t, Timestamp.readText (doc.textField name "") = .ok t) ↔
      ∀ s, doc.get? name = some (.string s) → s = "" ∨ ∃ t, Timestamp.ofText? s = some t := by
    intro name
    rw [Timestamp.exists_readText, Value.textField]
    cases doc.get? name with
    | none => simp
    | some x => cases x <;> simp [Value.asString?]
  rw [stamp, stamp, Value.StampsReadable]
  simp

/-- Behind the schema the nodes are read first, and the timestamps last. -/
theorem readFields_of_accepts (meets : Schema.workflow.Accepts doc) :
    ∃ build : Table Node → Option Timestamp → Option Timestamp → Workflow,
      readFields doc = (do
        let nodes ← readNodes ((doc.get? "nodes").getD .null)
        let createdAt ← Timestamp.readText (doc.textField "createdAt" "")
        let updatedAt ← Timestamp.readText (doc.textField "updatedAt" "")
        return build nodes createdAt updatedAt) := by
  obtain ⟨ts, readTransitions⟩ := exists_readTransitions meets
  rw [readFields, readTransitions]
  exact ⟨fun _ _ _ => _, rfl⟩

theorem exists_readFields (meets : Schema.workflow.Accepts doc) :
    (∃ w, readFields doc = .ok w) ↔ doc.NodesKeyed ∧ doc.StrayFree ∧ doc.StampsReadable := by
  obtain ⟨build, shape⟩ := readFields_of_accepts meets
  have nodes : (∃ table, readNodes ((doc.get? "nodes").getD .null) = .ok table) ↔
      doc.NodesKeyed ∧ doc.StrayFree :=
    (exists_readNodes (accepts_nodeFields meets)).trans forall₂_and
  rw [← and_assoc, ← nodes, ← exists_readStamps, shape]
  simp only [bind_eq_ok, pure_eq_ok]
  constructor
  · rintro ⟨_, table, readTable, created, readCreated, updated, readUpdated, -⟩
    exact ⟨⟨table, readTable⟩, ⟨created, readCreated⟩, updated, readUpdated⟩
  · rintro ⟨⟨table, readTable⟩, ⟨created, readCreated⟩, updated, readUpdated⟩
    exact ⟨_, table, readTable, created, readCreated, updated, readUpdated, rfl⟩

theorem exists_readFields_error (meets : Schema.workflow.Accepts doc) :
    (∃ e, readFields doc = .error e ∧ e.isDefinition = false) ↔ doc.StraysFirst := by
  obtain ⟨build, shape⟩ := readFields_of_accepts meets
  have nodes : (∃ e, readNodes ((doc.get? "nodes").getD .null) = .error e ∧
      e.isDefinition = false) ↔ doc.StraysFirst :=
    exists_readNodes_error (accepts_nodeFields meets)
  rw [← nodes, shape]
  constructor
  · rintro ⟨e, fails, undefined⟩
    rcases bind_eq_error.mp fails with fails | ⟨table, -, fails⟩
    · exact ⟨e, fails, undefined⟩
    -- A timestamp that cannot be read is an error of the document.
    · rcases bind_eq_error.mp fails with fails | ⟨created, -, fails⟩
      · exact absurd (Timestamp.isDefinition_of_readText fails) (by simp [undefined])
      · rcases bind_eq_error.mp fails with fails | ⟨updated, -, fails⟩
        · exact absurd (Timestamp.isDefinition_of_readText fails) (by simp [undefined])
        · cases fails
  · rintro ⟨e, fails, undefined⟩
    exact ⟨e, bind_eq_error.mpr (.inl fails), undefined⟩

theorem read_of_accepts (meets : Schema.workflow.Accepts doc) : read doc = readFields doc := by
  have none : Schema.workflow.violations doc = [] := meets
  rw [read, checkSchema, none]
  rfl

theorem read_of_not_accepts (refused : ¬Schema.workflow.Accepts doc) :
    ∃ violations, read doc = .error (.schema violations) := by
  rw [read, checkSchema]
  split
  case h_1 none => exact absurd none refused
  case h_2 violations _ => exact ⟨_, rfl⟩

/-- A document is read exactly when the schema accepts it, its nodes stand under their ids,
its timestamps are timestamps, and no node has stray conditions. It fails with something
else than an error of the document exactly when the schema accepts it and a node with stray
conditions comes before every node that is stored under a foreign key. -/
theorem read_outcomes (doc : Value) :
    ((∃ w, read doc = .ok w) ↔ Schema.workflow.Accepts doc ∧ doc.NodesKeyed ∧ doc.StrayFree ∧
      doc.StampsReadable) ∧
    ((∃ e, read doc = .error e ∧ e.isDefinition = false) ↔
      Schema.workflow.Accepts doc ∧ doc.StraysFirst) := by
  by_cases meets : Schema.workflow.Accepts doc
  · rw [and_iff_right meets, and_iff_right meets, read_of_accepts meets]
    exact ⟨exists_readFields meets, exists_readFields_error meets⟩
  · obtain ⟨violations, fails⟩ := read_of_not_accepts meets
    simp [fails, meets, ReadError.isDefinition]

/-- A door and a state whose data bring `null` conditions along. -/
def nullConditions : Value :=
  .object [("id", .string "wf"), ("name", .string "Desk"),
    ("nodes", .object [
      ("in", .object [("id", .string "in"), ("type", .string "trigger"),
        ("data", .object [("event", .string "create")])]),
      ("new", .object [("id", .string "new"), ("type", .string "state"),
        ("data", .object [("label", .string "New"), ("conditions", .null)])])]),
    ("transitions", .array [.object [("id", .string "t1"), ("fromNodeId", .string "in"),
      ("toNodeId", .string "new")]]),
    ("entryNodeId", .string "in")]

/-- The schema accepts the document, the nodes stand under their ids, and there are no
timestamps, but reading it fails, and not with an error of the document. -/
theorem nullConditions_fails : Schema.workflow.Accepts nullConditions ∧
    nullConditions.NodesKeyed ∧ nullConditions.StampsReadable ∧
      ∃ e, read nullConditions = .error e ∧ e.isDefinition = false := by
  have undefined : (match read nullConditions with
      | .error e => e.isDefinition
      | .ok _ => true) = false := by decide +kernel
  refine ⟨by decide +kernel, ?_, ?_, ?_⟩
  · simp [Value.NodesKeyed, Value.nodeFields, nullConditions, Value.get?, Table.lookup,
      Value.IsKeyed]
  · simp [Value.StampsReadable, nullConditions, Value.get?, Table.lookup]
  · cases outcome : read nullConditions with
    | error e =>
        rw [outcome] at undefined
        exact ⟨e, rfl, undefined⟩
    | ok w =>
        rw [outcome] at undefined
        cases undefined

end Workflow

end TicketFlow
