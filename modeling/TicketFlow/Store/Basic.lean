import TicketFlow.Rule.Compile

/-!
# Stored workflows and their rules

A store keeps workflows by id and the rules of the engine, the compiled ones of
all workflows together with those written by hand. Which rules belong to a
workflow is told by their ids alone: they begin with the stem of the workflow.
Synchronising compiles first, then drops the rules with a stem and appends the
compiled ones, so a failure leaves the store as it was.
-/

namespace TicketFlow

/-- Why rules were not synchronised. -/
inductive SyncError where
  /-- A workflow could not be compiled. -/
  | compile (error : CompileError)
  /-- The rules could not be written. -/
  | write (reason : String)
deriving DecidableEq, Repr

namespace SyncError

/-- The wording of an error. -/
def message : SyncError → String
  | .compile .hoursOutOfRange => "a number of hours is out of range"
  | .write reason => "Failed to write compiled rules: " ++ reason

end SyncError

/-- Whether the id of a rule begins with a stem. -/
def Rule.hasStem (stem : String) (r : Rule) : Bool :=
  stem.toList.isPrefixOf r.id.toList

/-- Workflows by id, rules in order, and why rules cannot be written at the
moment, if they cannot. -/
structure Store where
  workflows : Table Workflow
  rules : List Rule
  fault? : Option String

namespace Store

/-- Store a workflow under its id. -/
def upsert (s : Store) (w : Workflow) : Store :=
  { s with workflows := s.workflows.insert w.id w }

/-- Remove the workflow with an id. -/
def delete (s : Store) (id : String) : Store :=
  { s with workflows := s.workflows.erase id }

/-- The enabled workflows, in order. -/
def active (s : Store) : List Workflow :=
  s.workflows.values.filter Workflow.enabled

/-- Drop the rules whose ids begin with a stem and append some others. -/
def replaceRules (s : Store) (stem : String) (compiled : List Rule) : Except SyncError Store :=
  match s.fault? with
  | some reason => .error (.write reason)
  | none => .ok { s with rules := s.rules.filter (fun r => !r.hasStem stem) ++ compiled }

/-- The rules of a workflow. -/
def compileOne (w : Workflow) : Except SyncError (List Rule) :=
  w.compile.mapError .compile

/-- The rules of all enabled workflows, in order. -/
def compileActive (s : Store) : Except SyncError (List Rule) :=
  (s.active.mapM compileOne).map List.flatten

/-- The rules that the workflow with an id is to have: none if it is switched off
or not stored. -/
def compileFor (s : Store) (id : String) (enabled : Bool) : Except SyncError (List Rule) :=
  match s.workflows.get? id with
  | some w => if enabled then compileOne w else .ok []
  | none => .ok []

/-- Replace the rules of all workflows. The number tells how many were compiled. -/
def syncAll (s : Store) : Except SyncError (Store × Nat) := do
  let compiled ← s.compileActive
  let s ← s.replaceRules Rule.workflowStem compiled
  return (s, compiled.length)

/-- Replace the rules of one workflow. The number tells how many were compiled. -/
def syncWorkflow (s : Store) (id : String) (enabled : Bool) : Except SyncError (Store × Nat) := do
  let compiled ← s.compileFor id enabled
  let s ← s.replaceRules (Rule.stem id) compiled
  return (s, compiled.length)

@[simp] theorem replaceRules_fault (s : Store) (stem : String) (compiled : List Rule)
    (reason : String) (h : s.fault? = some reason) :
    s.replaceRules stem compiled = .error (.write reason) := by
  simp [replaceRules, h]

@[simp] theorem replaceRules_ok (s : Store) (stem : String) (compiled : List Rule)
    (h : s.fault? = none) :
    s.replaceRules stem compiled =
      .ok { s with rules := s.rules.filter (fun r => !r.hasStem stem) ++ compiled } := by
  simp [replaceRules, h]

end Store

end TicketFlow
