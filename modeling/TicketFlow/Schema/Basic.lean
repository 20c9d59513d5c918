import TicketFlow.Schema.Path
import TicketFlow.Value.Display

/-!
# Schemas

A schema is a tree of requirements. A requirement that speaks of one kind of
value says nothing about other kinds: `field` and `required` about objects,
`nonEmpty` about texts, `nonNegative` about numbers. `violations` checks all
requirements without stopping at the first one that fails, and lists the
violations in the order of the requirements. The recursion follows the schema,
not the document.
-/

namespace TicketFlow

/-- The kinds of values that a schema tells apart. -/
inductive Kind where
  | object
  | array
  | string
  | boolean
  | integer
  | number
deriving DecidableEq, Repr

namespace Kind

/-- The name of a kind. -/
def name : Kind → String
  | .object => "object"
  | .array => "array"
  | .string => "string"
  | .boolean => "boolean"
  | .integer => "integer"
  | .number => "number"

/-- Whether a value is of a kind. A double that is equal to an integer is one;
a truth value is no number. -/
def accepts : Kind → Value → Bool
  | .object, .object _ => true
  | .array, .array _ => true
  | .string, .string _ => true
  | .boolean, .bool _ => true
  | .integer, .number n => n.isIntegral
  | .number, .number _ => true
  | _, _ => false

end Kind

/-- A requirement on values, or several. -/
inductive Schema where
  /-- Nothing is required. -/
  | any
  /-- The value is of a kind. -/
  | kind (expected : Kind)
  /-- The value is one of some texts. -/
  | oneOf (choices : List String)
  /-- A text is not empty. -/
  | nonEmpty
  /-- A number is not negative. -/
  | nonNegative
  /-- The content of a field, if there is one, meets a schema. -/
  | field (name : String) (content : Schema)
  /-- A field is there. -/
  | required (name : String)
  /-- No field is there but those named. -/
  | closed (names : List String)
  /-- The content of every field meets a schema. -/
  | eachField (content : Schema)
  /-- Every item of an array meets a schema. -/
  | eachItem (content : Schema)
  /-- A schema is met unless a field is there that does not hold a given text. -/
  | whenTag (name tag : String) (schema : Schema)
  /-- Two schemas are met. -/
  | both (first second : Schema)
deriving Repr

/-- What a value does wrong. -/
inductive Problem where
  | wrongKind (found : Value) (expected : Kind)
  | notOneOf (found : Value) (choices : List String)
  | empty (found : Value)
  | negative (found : Value)
  | missing (name : String)
  | unexpected (names : List String)
deriving Repr

/-- A problem and the place where it was found. -/
structure Violation where
  path : Path
  problem : Problem
deriving Repr

namespace Problem

/-- The wording of a problem. -/
def message : Problem → String
  | .wrongKind found expected => found.shown ++ " is not of type " ++ Text.quoted expected.name
  | .notOneOf found choices =>
    found.shown ++ " is not one of " ++ Value.bracketed "[" "]" (choices.map Text.quoted)
  | .empty found => found.shown ++ " should be non-empty"
  | .negative found => found.shown ++ " is less than the minimum of 0"
  | .missing name => Text.quoted name ++ " is a required property"
  | .unexpected names =>
    "Additional properties are not allowed (" ++ ", ".intercalate (names.map Text.quoted) ++
      (if names.length = 1 then " was" else " were") ++ " unexpected)"

end Problem

namespace Violation

/-- A violation found below a step. -/
def under (step : Step) (v : Violation) : Violation :=
  { v with path := step :: v.path }

/-- The line that reports a violation. -/
def line (v : Violation) : String :=
  "  - " ++ v.path.text ++ ": " ++ v.problem.message

/-- Violations in the order of their paths; those of one place keep their order. -/
def sorted (vs : List Violation) : List Violation :=
  vs.mergeSort fun a b => a.path.le b.path

end Violation

namespace Schema

/-- Several requirements, in order. -/
def all (schemas : List Schema) : Schema :=
  schemas.foldr both any

/-- The keys of an object that are not among some names, in ascending order. -/
def unexpectedKeys (names : List String) (fields : List (String × Value)) : List String :=
  ((fields.map Prod.fst).filter fun k => !names.contains k).mergeSort fun a b => decide (a ≤ b)

/-- All violations of a schema by a value, in the order of the requirements. -/
def violations : Schema → Value → List Violation
  | .any, _ => []
  | .kind expected, v => if expected.accepts v then [] else [⟨[], .wrongKind v expected⟩]
  | .oneOf choices, v =>
    match v with
    | .string s => if s ∈ choices then [] else [⟨[], .notOneOf v choices⟩]
    | _ => [⟨[], .notOneOf v choices⟩]
  | .nonEmpty, v => if v.asString? = some "" then [⟨[], .empty v⟩] else []
  | .nonNegative, v =>
    match v with
    | .number n => if n.lt 0 then [⟨[], .negative v⟩] else []
    | _ => []
  | .field name content, v =>
    match v.get? name with
    | some x => (violations content x).map (·.under (.key name))
    | none => []
  | .required name, v =>
    match v with
    | .object _ => if (v.get? name).isSome then [] else [⟨[], .missing name⟩]
    | _ => []
  | .closed names, v =>
    match unexpectedKeys names v.fields with
    | [] => []
    | keys => [⟨[], .unexpected keys⟩]
  | .eachField content, v =>
    v.fields.flatMap fun f => (violations content f.2).map (·.under (.key f.1))
  | .eachItem content, v =>
    v.items.zipIdx.flatMap fun x => (violations content x.1).map (·.under (.index x.2))
  | .whenTag name tag schema, v =>
    match v.get? name with
    | none => violations schema v
    | some found => if found.asString? = some tag then violations schema v else []
  | .both first second, v => violations first v ++ violations second v

/-- A value meets a schema when nothing is violated. -/
def Accepts (schema : Schema) (v : Value) : Prop :=
  schema.violations v = []

@[simp] theorem violations_all (schemas : List Schema) (v : Value) :
    (all schemas).violations v = schemas.flatMap (·.violations v) := by
  induction schemas with
  | nil => rfl
  | cons s rest ih =>
    show s.violations v ++ (all rest).violations v = _
    rw [ih, List.flatMap_cons]

end Schema

end TicketFlow
