import TicketFlow.Sketch.Rule

/-!
# Sketches that are workflows

Every workflow has a sketch. The other way round, `Sketch.workflow?` reads a
sketch as a workflow, which succeeds when every value is of the kind that its
place in a workflow asks for and no series is bare. The main statement is that
nothing is lost on the way: a sketch is read as a workflow exactly when it is the
sketch of that workflow.
-/

namespace TicketFlow

namespace Value

/-- A value that may be absent, with `null` for the absent one. -/
def ofOption {α : Type} (write : α → Value) (content : Option α) : Value :=
  (content.map write).getD .null

/-- Read a value that may be absent. -/
def optional? {α : Type} (read : Value → Option α) : Value → Option (Option α)
  | .null => some none
  | v => (read v).map some

/-- The texts of an array of texts. -/
def asTexts? : Value → Option (List String)
  | .array items => items.mapM asString?
  | _ => none

theorem string_ne_null (s : String) : string s ≠ .null := by
  simp

theorem number_ne_null (n : Number) : number n ≠ .null := by
  simp

/-- A value that may be absent is read exactly when it was written. -/
theorem optional?_eq_some_iff {α : Type} {read : Value → Option α} {write : α → Value}
    (h : ∀ v a, read v = some a ↔ v = write a) (present : ∀ a, write a ≠ .null) {v : Value}
    {content : Option α} : v.optional? read = some content ↔ v = ofOption write content := by
  by_cases null : v = .null
  · subst null
    cases content with
    | none => simp [optional?, ofOption]
    | some a => simp [optional?, ofOption, (present a).symm]
  · have read : v.optional? read = (read v).map some := by
      unfold optional?
      split
      · exact absurd rfl null
      · rfl
    cases content with
    | none => simp [read, ofOption, null]
    | some a => simp [read, ofOption, h]

theorem optional?_asString_iff {v : Value} {content : Option String} :
    v.optional? asString? = some content ↔ v = ofOption .string content :=
  optional?_eq_some_iff (fun _ _ => asString?_eq_some_iff) string_ne_null

theorem optional?_asNumber_iff {v : Value} {content : Option Number} :
    v.optional? asNumber? = some content ↔ v = ofOption .number content :=
  optional?_eq_some_iff (fun _ _ => asNumber?_eq_some_iff) number_ne_null

theorem asTexts?_eq_some_iff {v : Value} {texts : List String} :
    v.asTexts? = some texts ↔ v = .texts texts := by
  cases v <;> simp [asTexts?, Value.texts, mapM_eq_some_iff fun _ _ => asString?_eq_some_iff]

end Value

namespace Sketch.Series

variable {α β : Type}

/-- The items of a series that was read. -/
def items? : Series α → Option (List α)
  | .read items => some items
  | .bare _ => none

/-- The items of a series that was read, checked one by one. -/
def checked? (check : α → Option β) (s : Series α) : Option (List β) := do
  (← s.items?).mapM check

theorem checked?_eq_some_iff {check : α → Option β} {sketch : β → α}
    (h : ∀ a b, check a = some b ↔ a = sketch b) {s : Series α} {items : List β} :
    s.checked? check = some items ↔ s = .read (items.map sketch) := by
  cases s <;> simp [checked?, items?, mapM_eq_some_iff h]

end Sketch.Series

namespace Condition

/-- The sketch of a condition. -/
def sketch (c : Condition) : Sketch.Condition :=
  ⟨.string c.field, .string c.operator, c.value⟩

end Condition

namespace Action

/-- The sketch of an action. -/
def sketch (a : Action) : Sketch.Action :=
  ⟨.string a.kind, a.value, a.extra⟩

end Action

namespace NodeData

/-- The sketch of a payload. -/
def sketch : NodeData → Sketch.Payload
  | .trigger d => .trigger (.string d.event) (.read (d.conditions.map Condition.sketch))
  | .state d =>
    .state (.string d.label) (.ofOption .string d.color) (.ofOption .number d.slaMinutes)
      (.read (d.onEnterActions.map Action.sketch)) (.array (d.mandatoryFields.map .string))
  | .condition d => .condition (.string d.logic) (.read (d.conditions.map Condition.sketch))
  | .action d => .action (.read (d.actions.map Action.sketch))
  | .delay d =>
    .delay (.string d.kind) (.ofOption .number d.minutes) (.ofOption .string d.event)
  | .terminal d => .terminal (.string d.label)

end NodeData

namespace Node

/-- The sketch of a node. -/
def sketch (n : Node) : Sketch.Node :=
  ⟨.string n.id, n.data.sketch, .number n.position.x, .number n.position.y⟩

end Node

namespace Transition

/-- The sketch of a transition. -/
def sketch (t : Transition) : Sketch.Transition :=
  ⟨.string t.id, .string t.source, .string t.target, .ofOption .string t.label,
    .ofOption .string t.branchKey, t.conditions.map Condition.sketch,
    t.actions.map Action.sketch⟩

end Transition

namespace Workflow

/-- The sketch of a workflow. -/
def sketch (w : Workflow) : Sketch where
  id := .string w.id
  name := .string w.name
  nodes := Keyed.ofTable (w.nodes.mapEntries fun _ n => n.sketch)
  transitions := w.transitions.map Transition.sketch
  entryId := .string w.entryId
  enabled := .bool w.enabled
  version := .number w.version
  description := .ofOption .string w.description
  createdAt := w.createdAt
  updatedAt := w.updatedAt

@[simp] theorem keys_sketch (w : Workflow) : w.sketch.nodes.keys = w.nodes.keys.map .string := by
  simp [sketch]

end Workflow

namespace Rule

/-- The sketch of a rule. -/
def sketch (r : Rule) : Sketch.Rule :=
  ⟨.string r.id, r.kind, .string r.name, .bool r.enabled,
    r.conditions.map fun c => .read c.sketch, r.actions.map fun a => .read a.sketch⟩

end Rule

namespace Sketch

/-- Read a condition of a sketch. -/
def Condition.checked? (c : Condition) : Option TicketFlow.Condition := do
  return ⟨← c.field.asString?, ← c.operator.asString?, c.value⟩

/-- Read an action of a sketch. -/
def Action.checked? (a : Action) : Option TicketFlow.Action := do
  return ⟨← a.kind.asString?, a.value, a.extra⟩

/-- Read a payload of a sketch. -/
def Payload.checked? : Payload → Option NodeData
  | .trigger event conditions => do
    return .trigger ⟨← event.asString?, ← conditions.checked? Condition.checked?⟩
  | .state label color slaMinutes actions mandatory => do
    return .state ⟨← label.asString?, ← color.optional? Value.asString?,
      ← slaMinutes.optional? Value.asNumber?, ← actions.checked? Action.checked?,
      ← mandatory.asTexts?⟩
  | .condition logic conditions => do
    return .condition ⟨← logic.asString?, ← conditions.checked? Condition.checked?⟩
  | .action actions => do return .action ⟨← actions.checked? Action.checked?⟩
  | .delay kind minutes event => do
    return .delay ⟨← kind.asString?, ← minutes.optional? Value.asNumber?,
      ← event.optional? Value.asString?⟩
  | .terminal label => do return .terminal ⟨← label.asString?⟩

/-- Read a node of a sketch. -/
def Node.checked? (n : Node) : Option TicketFlow.Node := do
  return ⟨← n.id.asString?, ← n.data.checked?, ⟨← n.x.asNumber?, ← n.y.asNumber?⟩⟩

/-- Read a transition of a sketch. -/
def Transition.checked? (t : Transition) : Option TicketFlow.Transition := do
  return ⟨← t.id.asString?, ← t.source.asString?, ← t.target.asString?,
    ← t.label.optional? Value.asString?, ← t.branchKey.optional? Value.asString?,
    ← t.conditions.mapM Condition.checked?, ← t.actions.mapM Action.checked?⟩

/-- Read the nodes of a sketch. -/
def checkedNodes? (nodes : Keyed Node) : Option (Table TicketFlow.Node) := do
  Keyed.table? (← nodes.mapM fun e => e.2.checked?.map fun n => (e.1, n))

/-- Read a sketch as a workflow. -/
def workflow? (g : Sketch) : Option Workflow := do
  let id ← g.id.asString?
  let name ← g.name.asString?
  let nodes ← checkedNodes? g.nodes
  let transitions ← g.transitions.mapM Transition.checked?
  let entryId ← g.entryId.asString?
  let enabled ← g.enabled.asBool?
  let version ← g.version.asNumber?
  let description ← g.description.optional? Value.asString?
  return ⟨id, name, nodes, transitions, entryId, enabled, version, description,
    g.createdAt, g.updatedAt⟩

/-- Read a rule of a sketch. -/
def Rule.checked? (r : Rule) : Option TicketFlow.Rule := do
  let conditions ← r.conditions.mapM fun part => part.item?.bind Condition.checked?
  let actions ← r.actions.mapM fun part => part.item?.bind Action.checked?
  return ⟨← r.id.asString?, r.kind, ← r.name.asString?, ← r.enabled.asBool?, conditions, actions⟩

/-! ## What is read is what was written -/

open Value

theorem Condition.checked?_eq_some_iff {c : Condition} {c' : TicketFlow.Condition} :
    c.checked? = some c' ↔ c = c'.sketch := by
  constructor
  · simp only [checked?, Option.bind_eq_bind, Option.bind_eq_some_iff, asString?_eq_some_iff]
    obtain ⟨field, operator, value⟩ := c
    rintro ⟨_, rfl, _, rfl, ⟨⟩⟩
    rfl
  · rintro rfl
    rfl

theorem Action.checked?_eq_some_iff {a : Action} {a' : TicketFlow.Action} :
    a.checked? = some a' ↔ a = a'.sketch := by
  constructor
  · simp only [checked?, Option.bind_eq_bind, Option.bind_eq_some_iff, asString?_eq_some_iff]
    obtain ⟨kind, value, extra⟩ := a
    rintro ⟨_, rfl, ⟨⟩⟩
    rfl
  · rintro rfl
    rfl

theorem Series.checked?_conditions_iff {s : Series Condition} {cs : List TicketFlow.Condition} :
    s.checked? Condition.checked? = some cs ↔ s = .read (cs.map TicketFlow.Condition.sketch) :=
  checked?_eq_some_iff fun _ _ => Condition.checked?_eq_some_iff

theorem Series.checked?_actions_iff {s : Series Action} {as : List TicketFlow.Action} :
    s.checked? Action.checked? = some as ↔ s = .read (as.map TicketFlow.Action.sketch) :=
  checked?_eq_some_iff fun _ _ => Action.checked?_eq_some_iff

theorem Payload.checked?_eq_some_iff {data : Payload} {d : NodeData} :
    data.checked? = some d ↔ data = d.sketch := by
  cases data <;>
    simp only [checked?, Option.bind_eq_bind, Option.bind_eq_some_iff, asString?_eq_some_iff,
      optional?_asString_iff, optional?_asNumber_iff, asTexts?_eq_some_iff,
      Series.checked?_conditions_iff, Series.checked?_actions_iff] <;>
    constructor
  case trigger.mp =>
    rintro ⟨_, rfl, _, rfl, ⟨⟩⟩
    rfl
  case state.mp =>
    rintro ⟨_, rfl, _, rfl, _, rfl, _, rfl, _, rfl, ⟨⟩⟩
    rfl
  case condition.mp =>
    rintro ⟨_, rfl, _, rfl, ⟨⟩⟩
    rfl
  case action.mp =>
    rintro ⟨_, rfl, ⟨⟩⟩
    rfl
  case delay.mp =>
    rintro ⟨_, rfl, _, rfl, _, rfl, ⟨⟩⟩
    rfl
  case terminal.mp =>
    rintro ⟨_, rfl, ⟨⟩⟩
    rfl
  -- The other way round a payload of another type is none that was written.
  all_goals cases d <;> rintro ⟨⟩
  case trigger.mpr => exact ⟨_, rfl, _, rfl, rfl⟩
  case state.mpr => exact ⟨_, rfl, _, rfl, _, rfl, _, rfl, _, rfl, rfl⟩
  case condition.mpr => exact ⟨_, rfl, _, rfl, rfl⟩
  case action.mpr => exact ⟨_, rfl, rfl⟩
  case delay.mpr => exact ⟨_, rfl, _, rfl, _, rfl, rfl⟩
  case terminal.mpr => exact ⟨_, rfl, rfl⟩

theorem Node.checked?_eq_some_iff {n : Node} {n' : TicketFlow.Node} :
    n.checked? = some n' ↔ n = n'.sketch := by
  simp only [checked?, Option.bind_eq_bind, Option.bind_eq_some_iff, asString?_eq_some_iff,
    asNumber?_eq_some_iff, Payload.checked?_eq_some_iff]
  constructor
  · obtain ⟨id, data, x, y⟩ := n
    rintro ⟨_, rfl, _, rfl, _, rfl, _, rfl, ⟨⟩⟩
    rfl
  · rintro rfl
    exact ⟨_, rfl, _, rfl, _, rfl, _, rfl, rfl⟩

theorem Transition.checked?_eq_some_iff {t : Transition} {t' : TicketFlow.Transition} :
    t.checked? = some t' ↔ t = t'.sketch := by
  have conditions {l : List Condition} {cs : List TicketFlow.Condition} :
      l.mapM Condition.checked? = some cs ↔ l = cs.map TicketFlow.Condition.sketch :=
    mapM_eq_some_iff fun _ _ => Condition.checked?_eq_some_iff
  have actions {l : List Action} {as : List TicketFlow.Action} :
      l.mapM Action.checked? = some as ↔ l = as.map TicketFlow.Action.sketch :=
    mapM_eq_some_iff fun _ _ => Action.checked?_eq_some_iff
  simp only [checked?, Option.bind_eq_bind, Option.bind_eq_some_iff, asString?_eq_some_iff,
    optional?_asString_iff, conditions, actions]
  constructor
  · obtain ⟨id, source, target, label, branchKey, conditions, actions⟩ := t
    rintro ⟨_, rfl, _, rfl, _, rfl, _, rfl, _, rfl, _, rfl, _, rfl, ⟨⟩⟩
    rfl
  · rintro rfl
    exact ⟨_, rfl, _, rfl, _, rfl, _, rfl, _, rfl, _, rfl, _, rfl, rfl⟩

theorem checkedNodes?_eq_some_iff {nodes : Keyed Node} {t : Table TicketFlow.Node} :
    checkedNodes? nodes = some t ↔ nodes = .ofTable (t.mapEntries fun _ n => n.sketch) := by
  simp only [checkedNodes?, Option.bind_eq_bind, Option.bind_eq_some_iff,
    Keyed.mapM_contents_iff fun _ _ => Node.checked?_eq_some_iff, Keyed.table?_eq_some_iff,
    ← Keyed.map_ofTable]
  constructor
  · rintro ⟨_, rfl, rfl⟩
    rfl
  · rintro rfl
    exact ⟨_, rfl, rfl⟩

/-- A sketch is read as a workflow exactly when it is the sketch of that workflow. -/
theorem workflow?_eq_some_iff {g : Sketch} {w : Workflow} :
    g.workflow? = some w ↔ g = w.sketch := by
  have transitions {l : List Transition} {ts : List TicketFlow.Transition} :
      l.mapM Transition.checked? = some ts ↔ l = ts.map TicketFlow.Transition.sketch :=
    mapM_eq_some_iff fun _ _ => Transition.checked?_eq_some_iff
  simp only [workflow?, Option.bind_eq_bind, Option.bind_eq_some_iff, asString?_eq_some_iff,
    asBool?_eq_some_iff, asNumber?_eq_some_iff, optional?_asString_iff, checkedNodes?_eq_some_iff,
    transitions]
  constructor
  · obtain ⟨id, name, nodes, transitions, entryId, enabled, version, description, _, _⟩ := g
    rintro ⟨_, rfl, _, rfl, _, rfl, _, rfl, _, rfl, _, rfl, _, rfl, _, rfl, ⟨⟩⟩
    rfl
  · rintro rfl
    exact ⟨_, rfl, _, rfl, _, rfl, _, rfl, _, rfl, _, rfl, _, rfl, _, rfl, rfl⟩

/-- A workflow is read again from its sketch. -/
theorem workflow?_sketch (w : Workflow) : w.sketch.workflow? = some w :=
  workflow?_eq_some_iff.mpr rfl

theorem Part.checked?_eq_some_iff {α β : Type} {check : α → Option β} {sketch : β → α}
    (h : ∀ a b, check a = some b ↔ a = sketch b) (part : Part α) (b : β) :
    part.item?.bind check = some b ↔ part = .read (sketch b) := by
  cases part <;> simp [item?, h]

/-- A rule whose fields may hold any value is read as a rule exactly when it is the
sketch of that rule. -/
theorem Rule.checked?_eq_some_iff {r : Rule} {r' : TicketFlow.Rule} :
    r.checked? = some r' ↔ r = r'.sketch := by
  have conditions {l : List (Part Condition)} {cs : List TicketFlow.Condition} :
      (l.mapM fun part => part.item?.bind Condition.checked?) = some cs ↔
        l = cs.map fun c => .read c.sketch :=
    mapM_eq_some_iff (Part.checked?_eq_some_iff fun _ _ => Condition.checked?_eq_some_iff)
  have actions {l : List (Part Action)} {as : List TicketFlow.Action} :
      (l.mapM fun part => part.item?.bind Action.checked?) = some as ↔
        l = as.map fun a => .read a.sketch :=
    mapM_eq_some_iff (Part.checked?_eq_some_iff fun _ _ => Action.checked?_eq_some_iff)
  simp only [checked?, Option.bind_eq_bind, Option.bind_eq_some_iff, conditions, actions,
    asString?_eq_some_iff, asBool?_eq_some_iff]
  constructor
  · obtain ⟨id, kind, name, enabled, conditions, actions⟩ := r
    rintro ⟨_, rfl, _, rfl, _, rfl, _, rfl, _, rfl, ⟨⟩⟩
    rfl
  · rintro rfl
    exact ⟨_, rfl, _, rfl, _, rfl, _, rfl, _, rfl, rfl⟩

end Sketch

end TicketFlow
