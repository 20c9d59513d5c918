import TicketFlow.Sketch.Reader
import TicketFlow.Sketch.Writer

/-!
# Sketches of rules

A rule whose fields may hold any value. Its kind is one of those that the engine
runs, and its conditions and actions are parts: those that came from a bare
series of a sketch are in the way when the rule is written.
-/

namespace TicketFlow.Sketch

/-- A rule whose fields may hold any value. -/
structure Rule where
  id : Value
  kind : RuleKind
  name : Value
  enabled : Value
  conditions : List (Part Condition)
  actions : List (Part Action)

/-- Read a kind of rule by its name. -/
def readKind (v : Value) : Attempt RuleKind :=
  match v.asString?.bind RuleKind.ofName? with
  | some kind => .ok kind
  | none => .error .name

namespace Rule

/-- Read a rule. -/
def read (v : Value) : Attempt Rule := do
  let id ← v.demand "id"
  let kind ← readKind (← v.demand "type")
  let name ← v.demand "name"
  let enabled ← v.demand "enabled"
  let guard ← (← v.demand "conditions").demand "all"
  let conditions ← (← guard.elements).mapM Condition.read
  let actions ← (← (← v.demand "actions").elements).mapM Action.read
  return ⟨id, kind, name, enabled, conditions.map .read, actions.map .read⟩

/-- The document of a rule. -/
def toValue (r : Rule) : Attempt Value := do
  let conditions ← Part.toValues Condition.toValue r.conditions
  let actions ← Part.toValues Action.toValue r.actions
  return .object [("id", r.id), ("type", .string r.kind.name), ("name", r.name),
    ("enabled", r.enabled), ("conditions", .object [("all", .array conditions)]),
    ("actions", .array actions)]

end Rule

end TicketFlow.Sketch
