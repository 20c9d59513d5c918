import TicketFlow.Proofs.Schema.Sorting
import TicketFlow.Schema.Document
import TicketFlow.Workflow.Reader

/-!
# The routes of a schema

The path of a violation consists of the steps that the schema takes into a value, so where two
paths can part is a matter of the schema and not of the value. A schema is coherent when no
two of its routes part at a key and an index. Its violations can then be compared, however
little the value is like what the schema asks for. The schema of workflow documents is
coherent, so the report on a document is in the order of the paths.
-/

namespace TicketFlow

/-! ## Turns and routes -/

/-- One step of a schema into a value. -/
inductive Turn where
  | named (name : String)
  | anyKey
  | anyIndex
deriving DecidableEq, Repr

namespace Turn

/-- Whether a step is one that a turn allows. -/
def Admits : Turn → Step → Prop
  | .named name, .key key => key = name
  | .anyKey, .key _ => True
  | .anyIndex, .index _ => True
  | _, _ => False

theorem named_admits (name : String) : (named name).Admits (.key name) := rfl

theorem anyKey_admits (name : String) : anyKey.Admits (.key name) := trivial

theorem anyIndex_admits (i : Nat) : anyIndex.Admits (.index i) := trivial

/-- Whether a turn goes by a key. -/
def isKey : Turn → Bool
  | .anyIndex => false
  | _ => true

/-- Whether two turns can be one and the same step. -/
def meets : Turn → Turn → Bool
  | .named a, .named b => a == b
  | t, u => t.isKey == u.isKey

variable {t u : Turn} {s s' : Step}

theorem alike_of_admits (kind : t.isKey = u.isKey) (first : t.Admits s) (second : u.Admits s') :
    s.Alike s' := by
  cases s <;> cases s'
  case key.key a b => exact .keys a b
  case index.index i j => exact .indices i j
  all_goals cases t <;> cases u <;> simp_all [Admits, isKey]

theorem meets_of_admits (first : t.Admits s) (second : u.Admits s) : t.meets u = true := by
  cases s <;> cases t <;> cases u <;> simp_all [Admits, meets, isKey]

end Turn

/-- The turns of a schema from the root of a value to a place that it speaks of. -/
abbrev Route := List Turn

namespace Route

/-- Whether a route leads along a path. -/
def Leads (route : Route) (path : Path) : Prop :=
  List.Forall₂ Turn.Admits route path

/-- Whether two routes part, if at all, at two keys or at two indices. -/
def agrees : Route → Route → Bool
  | t :: r, u :: q => t.isKey == u.isKey && (!t.meets u || agrees r q)
  | _, _ => true

/-- Paths along agreeing routes can be compared. -/
theorem partAlike_of_agrees {r q : Route} {p p' : Path} (agree : r.agrees q = true)
    (first : r.Leads p) (second : q.Leads p') : p.PartAlike p' := by
  induction first generalizing q p' with
  | nil => exact Path.partAlike_nil_left
  | @cons t s r p admits rest ih =>
      cases second with
      | nil => exact Path.partAlike_nil_right
      | @cons u s' q p' admits' rest' =>
          rw [agrees, Bool.and_eq_true, beq_iff_eq] at agree
          obtain ⟨kind, further⟩ := agree
          rw [Path.partAlike_cons_iff]
          -- The routes go on together for as long as the paths do.
          rcases eq_or_ne s s' with rfl | differ
          · rw [Turn.meets_of_admits admits admits', Bool.not_true, Bool.false_or] at further
            exact .inl ⟨rfl, ih further rest'⟩
          · exact .inr ⟨differ, Turn.alike_of_admits kind admits admits'⟩

end Route

namespace Schema

/-- The routes to the places of which a schema speaks. -/
def routes : Schema → List Route
  | .any => []
  | .field name content => (routes content).map (.named name :: ·)
  | .eachField content => (routes content).map (.anyKey :: ·)
  | .eachItem content => (routes content).map (.anyIndex :: ·)
  | .whenTag _ _ schema => routes schema
  | .both first second => routes first ++ routes second
  | _ => [[]]

/-- No two routes of a schema part at a key and an index. -/
def IsCoherent (schema : Schema) : Prop :=
  ∀ r ∈ schema.routes, ∀ q ∈ schema.routes, r.agrees q = true

instance (schema : Schema) : Decidable schema.IsCoherent :=
  inferInstanceAs (Decidable (∀ r ∈ schema.routes, ∀ q ∈ schema.routes, r.agrees q = true))

/-- Every place in a document is looked into by keys only or by indices only. -/
theorem workflow_isCoherent : workflow.IsCoherent := by decide +kernel

/-- A violation found below a step follows a route that begins with a turn to this step. -/
theorem exists_route_under {content : Schema} {x : Value} {a : Violation} {step : Step}
    {turn : Turn} (admits : turn.Admits step)
    (follows : ∀ {b}, b ∈ content.violations x → ∃ r ∈ content.routes, r.Leads b.path)
    (mem : a ∈ (content.violations x).map (·.under step)) :
    ∃ r ∈ content.routes.map (turn :: ·), Route.Leads r a.path := by
  obtain ⟨b, inner, rfl⟩ := List.mem_map.mp mem
  obtain ⟨r, route, leads⟩ := follows inner
  exact ⟨turn :: r, List.mem_map_of_mem route, .cons admits leads⟩

/-- The path of a violation follows a route of the schema. -/
theorem exists_route {schema : Schema} {v : Value} {a : Violation}
    (mem : a ∈ schema.violations v) : ∃ r ∈ schema.routes, r.Leads a.path := by
  induction schema generalizing v a with
  | any => cases mem
  | field name content ih =>
      rw [violations] at mem
      split at mem
      · exact exists_route_under (Turn.named_admits name) ih mem
      · cases mem
  | eachField content ih =>
      rw [violations] at mem
      obtain ⟨f, -, found⟩ := List.mem_flatMap.mp mem
      exact exists_route_under (Turn.anyKey_admits f.1) ih found
  | eachItem content ih =>
      rw [violations] at mem
      obtain ⟨x, -, found⟩ := List.mem_flatMap.mp mem
      exact exists_route_under (Turn.anyIndex_admits x.2) ih found
  | whenTag name tag schema ih =>
      rw [violations] at mem
      split at mem
      · exact ih mem
      · split at mem
        · exact ih mem
        · cases mem
  | both first second ihFirst ihSecond =>
      rcases List.mem_append.mp mem with found | found
      · obtain ⟨r, route, leads⟩ := ihFirst found
        exact ⟨r, List.mem_append_left _ route, leads⟩
      · obtain ⟨r, route, leads⟩ := ihSecond found
        exact ⟨r, List.mem_append_right _ route, leads⟩
  -- Every other requirement speaks of the value itself.
  | _ =>
      have root : a.path = [] := by cases v <;> grind [violations]
      exact ⟨[], List.mem_singleton_self _, root ▸ .nil⟩

/-- Violations of a coherent schema can be compared, even by values that are not the same. -/
theorem partAlike_of_mem {schema : Schema} (coherent : schema.IsCoherent) {v w : Value}
    {a b : Violation} (first : a ∈ schema.violations v) (second : b ∈ schema.violations w) :
    a.path.PartAlike b.path := by
  obtain ⟨r, route, leads⟩ := exists_route first
  obtain ⟨q, route', leads'⟩ := exists_route second
  exact Route.partAlike_of_agrees (coherent r route q route') leads leads'

theorem comparable_violations (v : Value) : Violation.Comparable (workflow.violations v) :=
  fun _ first _ second => partAlike_of_mem workflow_isCoherent first second

end Schema

namespace Workflow

/-- Any two violations of a document can be compared, as their paths part, if at all, at two
keys or at two indices. So the report does not depend on what a comparison makes of a key and
an index. It is made up of the violations in the order of their paths, and those of one path
are in the order of the schema. -/
theorem violations_reported_in_order (v : Value) :
    (∀ a ∈ Schema.workflow.violations v, ∀ b ∈ Schema.workflow.violations v,
      a.path.PartAlike b.path ∧ ∃ o, Path.compare? a.path b.path = some o) ∧
    (Schema.workflow.violations v = [] ∧ checkSchema v = .ok () ∨
      Schema.workflow.violations v ≠ [] ∧
        ∃ reported, checkSchema v = .error (.schema reported) ∧
          (∀ le, Violation.FollowsPaths le →
            reported = (Schema.workflow.violations v).mergeSort le) ∧
          reported.Perm (Schema.workflow.violations v) ∧
          reported.Pairwise (fun a b => a.path = b.path ∨ a.path < b.path) ∧
          ∀ path, reported.filter (·.path = path) =
            (Schema.workflow.violations v).filter (·.path = path)) := by
  have comparable := Schema.comparable_violations v
  refine ⟨fun a ha b hb => ?pair, ?report⟩
  case pair =>
    have alike := comparable a ha b hb
    exact ⟨alike, Path.exists_compare?_iff.mpr alike⟩
  case report =>
    rw [checkSchema]
    split
    case h_1 accepted => exact .inl ⟨accepted, rfl⟩
    case h_2 refused =>
      exact .inr ⟨refused, _, rfl, fun _ follows => comparable.sorted_eq_mergeSort follows,
        Violation.perm_sorted _, comparable.pairwise_sorted, comparable.filter_sorted⟩

/-- Two conditions are wrong in the data of a node that does not say of which type it is, so
they are found wrong more than once, and a transition is no object. -/
def untyped : Value :=
  .object [("transitions", .array [.bool true]),
    ("nodes", .object [("n", .object [("id", .string "n"),
      ("data", .object [("conditions", .array [.number 5, .object [("field", .string "")]])])])])]

/-- Violations of the document part at two indices and at two keys, and a comparison that
refuses a key and an index gives the report as well. -/
theorem untyped_reported_in_order :
    let found := Schema.workflow.violations untyped
    ∃ a ∈ found, ∃ b ∈ found, ∃ c ∈ found,
      a.path = [.key "nodes", .key "n", .key "data", .key "conditions", .index 0] ∧
      b.path = [.key "nodes", .key "n", .key "data", .key "conditions", .index 1, .key "field"] ∧
      c.path = [.key "transitions", .index 0] ∧
      a.path.PartAlike b.path ∧ (∃ o, Path.compare? b.path c.path = some o) ∧
      ∃ reported, checkSchema untyped = .error (.schema reported) ∧
        reported = found.mergeSort (fun a b =>
          (Path.compare? a.path b.path).any (· != .gt)) ∧
        reported.Pairwise (fun a b => a.path = b.path ∨ a.path < b.path) := by
  intro found
  obtain ⟨a, ha, pathA⟩ : ∃ a ∈ found, a.path =
      [.key "nodes", .key "n", .key "data", .key "conditions", .index 0] := by decide +kernel
  obtain ⟨b, hb, pathB⟩ : ∃ b ∈ found, b.path =
      [.key "nodes", .key "n", .key "data", .key "conditions", .index 1, .key "field"] := by
    decide +kernel
  obtain ⟨c, hc, pathC⟩ : ∃ c ∈ found, c.path = [.key "transitions", .index 0] := by
    decide +kernel
  have strict : Violation.FollowsPaths fun a b =>
      (Path.compare? a.path b.path).any (· != .gt) := by
    intro a b o compared
    show (Path.compare? a.path b.path).any (· != .gt) = (o != .gt)
    rw [compared, Option.any_some]
  obtain ⟨comparable, ⟨accepted, -⟩ | ⟨-, reported, outcome, sorts, -, ordered, -⟩⟩ :=
    violations_reported_in_order untyped
  · have empty : found = [] := accepted
    exact absurd (empty ▸ ha) List.not_mem_nil
  · exact ⟨a, ha, b, hb, c, hc, pathA, pathB, pathC, (comparable a ha b hb).1,
      (comparable b hb c hc).2, reported, outcome, sorts _ strict, ordered⟩

end Workflow

end TicketFlow
