import TicketFlow.Sketch.Report
import TicketFlow.Store.Basic

/-!
# Workspaces

A workspace is where workflows are edited and stored. Names and stored ids refer
to sketches by number, so an edit through a name is seen by the store and by every
other name of the same sketch. Loading, creating and repairing make a new sketch
and leave the old one to its other names.

As long as everything stored is a workflow and every rule is one, a workspace holds
a `Store`, and its rules are synchronised there.
-/

namespace TicketFlow

/-- Sketches by number, their names, the numbers under which ids are stored, the
rules, and why rules cannot be written at the moment, if they cannot. -/
structure Workspace where
  sketches : List Sketch
  names : Keyed Nat
  stored : Keyed Nat
  rules : List Sketch.Rule
  fault? : Option String

namespace Workspace

/-- A workspace with some rules. -/
def start (rules : List Sketch.Rule) : Workspace :=
  ⟨[], [], [], rules, none⟩

/-- The sketch with a number. -/
def sketch (s : Workspace) (number : Nat) : Sketch :=
  s.sketches.getD number default

/-- Add a sketch under a name. -/
def add (s : Workspace) (name : Value) (g : Sketch) : Attempt Workspace := do
  return { s with
    sketches := s.sketches ++ [g]
    names := s.names.put (← name.asKey) s.sketches.length }

/-- Change the sketch with a number, for all that refer to it. -/
def set (s : Workspace) (number : Nat) (g : Sketch) : Workspace :=
  { s with sketches := s.sketches.set number g }

/-- The number of the sketch with a name. -/
def number (s : Workspace) (name : Value) : Attempt Nat := do
  match s.names.get? (← name.asKey) with
  | some n => return n
  | none => throw (.missing name)

/-- Store the sketch with a number under its current id. -/
def upsert (s : Workspace) (number : Nat) : Attempt Workspace := do
  return { s with stored := s.stored.put (← (s.sketch number).id.asKey) number }

/-- Store a workflow that has no name. -/
def deposit (s : Workspace) (w : Workflow) : Workspace :=
  { s with
    sketches := s.sketches ++ [w.sketch]
    stored := s.stored.put (.string w.id) s.sketches.length }

/-- Whether something is stored under an id. Nothing is, when nothing is stored at all. -/
def isStored (s : Workspace) (id : Value) : Attempt Bool :=
  if s.stored.isEmpty then .ok false else do return s.stored.contains (← id.asKey)

/-- Remove what is stored under an id. -/
def delete (s : Workspace) (id : Value) : Workspace :=
  { s with stored := s.stored.remove id }

/-- The stored sketches, each under its id. -/
def storedSketches (s : Workspace) : Keyed Sketch :=
  s.stored.map fun e => (e.1, s.sketch e.2)

/-- The stored sketches that are enabled, in order. -/
def active (s : Workspace) : List Sketch :=
  s.storedSketches.values.filter fun g => g.enabled.isSet

/-- The stored workflows and the rules as a store, if they are all workflows and
rules. -/
def store? (s : Workspace) : Option Store := do
  let workflows ← s.storedSketches.mapM fun e => e.2.workflow?.map fun w => (e.1, w)
  return ⟨← Keyed.table? workflows, ← s.rules.mapM Sketch.Rule.checked?, s.fault?⟩

end Workspace

end TicketFlow
