import TicketFlow.Workspace.Basic

/-!
# Synchronising the rules of a workspace

A workspace that holds a store is synchronised as that store. In any other the same
is attempted: the rules are compiled first, then the rules with a stem are dropped
and the compiled ones appended. A failure leaves the workspace as it was.
-/

namespace TicketFlow

/-- Why something cannot be done with a workspace. -/
inductive WorkspaceError where
  /-- A value is in the way. -/
  | misfit (misfit : Misfit)
  /-- The rules cannot be written. -/
  | sync (error : SyncError)

namespace WorkspaceError

/-- The error of a workspace that an error of its store is. -/
def ofSync : SyncError → WorkspaceError
  | .compile error => .misfit (.compile error)
  | error => .sync error

end WorkspaceError

/-- What is attempted with values can be attempted with a workspace. -/
instance : MonadLift (Except Misfit) (Except WorkspaceError) where
  monadLift attempt := attempt.mapError .misfit

/-- Whether the id of a rule begins with a stem. It has to be a text. -/
def Sketch.Rule.hasStem (stem : String) (r : Sketch.Rule) : Except WorkspaceError Bool :=
  match r.id with
  | .string id => .ok (stem.toList.isPrefixOf id.toList)
  | id =>
    .error (.sync (.write (Text.quoted id.kindName ++ " object has no attribute 'startswith'")))

namespace Workspace

/-- Drop the rules whose ids begin with a stem and append some others. -/
def replaceRules (s : Workspace) (stem : String) (compiled : List Sketch.Rule) :
    Except WorkspaceError Workspace :=
  match s.fault? with
  | some reason => .error (.sync (.write reason))
  | none => do
    let kept ← s.rules.filterM fun r => return !(← r.hasStem stem)
    return { s with rules := kept ++ compiled }

/-- Take over the outcome of synchronising a store. -/
def afterSync (s : Workspace) (outcome : Except SyncError (Store × Nat)) :
    Except WorkspaceError (Workspace × Nat) :=
  match outcome with
  | .ok (store, count) => .ok ({ s with rules := store.rules.map Rule.sketch }, count)
  | .error error => .error (.ofSync error)

/-- The rules of all enabled sketches, in order. -/
def compileActive (s : Workspace) : Attempt (List Sketch.Rule) := do
  return (← s.active.mapM Sketch.rules).flatten

/-- Replace the rules of all sketches. The number tells how many were compiled. -/
def syncAll (s : Workspace) : Except WorkspaceError (Workspace × Nat) :=
  match s.store? with
  | some store => s.afterSync store.syncAll
  | none => do
    let compiled ← s.compileActive
    return (← s.replaceRules Rule.workflowStem compiled, compiled.length)

/-- The rules that the sketch under an id is to have: none if it is switched off or
not stored. -/
def compileFor (s : Workspace) (id enabled : Value) : Attempt (List Sketch.Rule) := do
  if enabled.isSet then
    match s.storedSketches.get? (← id.asKey) with
    | some g => g.rules
    | none => return []
  else return []

/-- Replace the rules of one sketch. The number tells how many were compiled. -/
def syncWorkflow (s : Workspace) (id enabled : Value) :
    Except WorkspaceError (Workspace × Nat) :=
  match s.store?, id.asString? with
  | some store, some id => s.afterSync (store.syncWorkflow id enabled.isSet)
  | _, _ => do
    let compiled ← s.compileFor id enabled
    return (← s.replaceRules (Rule.stem id.display) compiled, compiled.length)

end Workspace

end TicketFlow
