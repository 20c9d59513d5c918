import TicketFlow.Proofs.Rule.Failure
import TicketFlow.Proofs.Store.Run

/-!
# Syncs that fail

A sync is also given as a procedure that works on the store in place: what it has written
when it fails stays written. It compiles one workflow after the other and writes once, at
the end. So it leaves the store that the sync returns, and the one that it found if there is
none. It fails on workflows with overlong times, and when the rules cannot be written.
-/

namespace TicketFlow

/-- A procedure that works on a store in place. It leaves a store also when it fails. -/
abbrev Procedure (α : Type) :=
  EStateM SyncError Store α

namespace Procedure

/-- Go on with what was computed, or fail with its error. -/
def ofExcept {α : Type} : Except SyncError α → Procedure α
  | .ok a => pure a
  | .error e => throw e

/-- Replace the rules with a stem by others, unless they cannot be written. -/
def replaceRules (stem : String) (compiled : List Rule) : Procedure Unit := do
  match (← get).fault? with
  | some reason => throw (.write reason)
  | none => modify fun s =>
    { s with rules := s.rules.filter (fun r => !r.hasStem stem) ++ compiled }

/-- Compile workflows one after the other, behind some rules. -/
def compileAll (compiled : List Rule) : List Workflow → Procedure (List Rule)
  | [] => return compiled
  | w :: rest => do
    let rules ← ofExcept (Store.compileOne w)
    compileAll (compiled ++ rules) rest

end Procedure

/-- The two kinds of syncs. -/
inductive Sync where
  | all
  | one (id : String) (enabled : Bool)

namespace Sync

/-- A sync of a store. -/
def perform (s : Store) : Sync → Except SyncError (Store × Nat)
  | .all => s.syncAll
  | .one id enabled => s.syncWorkflow id enabled

/-- The workflows that a sync compiles. -/
def sources (s : Store) : Sync → List Workflow
  | .all => s.active
  | .one id enabled => if enabled then (s.workflows.get? id).toList else []

/-- What the ids of the rules that a sync replaces begin with. -/
def stem : Sync → String
  | .all => Rule.workflowStem
  | .one id _ => Rule.stem id

/-- A sync in place. -/
def procedure (sync : Sync) : Procedure Nat := do
  let s ← get
  let compiled ← Procedure.compileAll [] (sync.sources s)
  Procedure.replaceRules sync.stem compiled
  return compiled.length

/-- A sync comes upon a workflow with an overlong time. -/
def IsOverlong (s : Store) : Sync → Prop
  | .all => ∃ w ∈ s.active, w.IsOverlong
  | .one id enabled => enabled = true ∧ ∃ w, s.workflows.get? id = some w ∧ w.IsOverlong

end Sync

open Fallible

variable {s s' : Store} {n : Nat} {sync : Sync}

/-- What is left when a computation on a store is carried out in place. -/
def Store.result (s : Store) : Except SyncError (Store × Nat) → EStateM.Result SyncError Store Nat
  | .ok (s', n) => .ok n s'
  | .error e => .error e s

namespace Procedure

theorem bind_apply {α β : Type} (x : Procedure α) (f : α → Procedure β) (s : Store) :
    (x >>= f) s = match x s with
      | .ok a s' => f a s'
      | .error e s' => .error e s' := by
  cases h : x s <;> simp [bind, EStateM.bind, h]

/-- Compiling in place stops at the first workflow that fails, and it writes nothing. -/
theorem compileAll_apply (compiled : List Rule) (workflows : List Workflow) (s : Store) :
    compileAll compiled workflows s = match workflows.mapM Store.compileOne with
      | .ok lists => .ok (compiled ++ lists.flatten) s
      | .error e => .error e s := by
  induction workflows generalizing compiled with
  | nil => simp [compileAll, pure, EStateM.pure, Except.pure]
  | cons w rest ih =>
      rw [compileAll, bind_apply, List.mapM_cons]
      cases Store.compileOne w with
      | error e => rfl
      | ok rules =>
          change compileAll (compiled ++ rules) rest s = _
          rw [ih]
          cases rest.mapM Store.compileOne with
          | error e => rfl
          | ok lists => simp [pure, Except.pure]

theorem replaceRules_apply (stem : String) (compiled : List Rule) (s : Store) :
    replaceRules stem compiled s = match s.replaceRules stem compiled with
      | .ok s' => .ok () s'
      | .error e => .error e s := by
  rw [replaceRules, bind_apply]
  cases h : s.fault? with
  | none => simp [Store.replaceRules, h, EStateM.get, get, getThe, MonadStateOf.get, modify,
      modifyGet, MonadStateOf.modifyGet, EStateM.modifyGet]
  | some reason => simp [Store.replaceRules, h, EStateM.get, get, getThe, MonadStateOf.get,
      throw, throwThe, MonadExceptOf.throw, EStateM.throw]

end Procedure

namespace Sync

/-! ## In place and at once -/

/-- A sync compiles, and then it replaces the rules. -/
theorem perform_eq (s : Store) (sync : Sync) :
    sync.perform s = ((sync.sources s).mapM Store.compileOne).map List.flatten >>= fun compiled =>
      (s.replaceRules sync.stem compiled).map fun s' => (s', compiled.length) := by
  cases sync with
  | all => rfl
  | one id enabled =>
      have same : s.compileFor id enabled =
          ((sources s (.one id enabled)).mapM Store.compileOne).map List.flatten := by
        rw [Store.compileFor, sources]
        cases s.workflows.get? id with
        | none => cases enabled <;> rfl
        | some w =>
            cases enabled with
            | false => rfl
            | true =>
                cases h : Store.compileOne w <;>
                  simp [h, pure, Except.pure, Except.map]
      rw [← same]
      rfl

/-- In place a sync leaves the store that it returns, and otherwise the one it found. -/
theorem procedure_eq (s : Store) (sync : Sync) : sync.procedure s = s.result (sync.perform s) := by
  rw [perform_eq, procedure, Procedure.bind_apply]
  change (Procedure.compileAll [] (sync.sources s) >>= fun compiled =>
    Procedure.replaceRules sync.stem compiled >>= fun _ => pure compiled.length) s = _
  rw [Procedure.bind_apply, Procedure.compileAll_apply]
  cases (sync.sources s).mapM Store.compileOne with
  | error e => rfl
  | ok lists =>
      change (Procedure.replaceRules sync.stem lists.flatten >>= fun _ =>
        pure lists.flatten.length) s = s.result
          ((s.replaceRules sync.stem lists.flatten).map fun s' => (s', lists.flatten.length))
      rw [Procedure.bind_apply, Procedure.replaceRules_apply]
      cases s.replaceRules sync.stem lists.flatten <;> rfl

/-! ## When compiling fails -/

theorem compileOne_eq_error_iff {w : Workflow} {e : SyncError} :
    Store.compileOne w = .error e ↔ e = .compile .hoursOutOfRange ∧ w.IsOverlong := by
  have failed := fun e' => Workflow.compile_eq_error_iff (w := w) (e := e')
  rw [Store.compileOne]
  cases h : w.compile with
  | ok rules => simpa [h, Except.mapError] using fun _ => failed .hoursOutOfRange
  | error e' =>
      cases e'
      simp [Except.mapError, (failed .hoursOutOfRange).mp h, eq_comm]

theorem exists_source_iff : (∃ w ∈ sync.sources s, w.IsOverlong) ↔ sync.IsOverlong s := by
  cases sync with
  | all => rfl
  | one id enabled => cases enabled <;> simp [sources, IsOverlong]

/-- Whatever the place of an overlong workflow among the others. -/
theorem mapM_compileOne_eq_error_iff {e : SyncError} :
    (sync.sources s).mapM Store.compileOne = .error e ↔
      e = .compile .hoursOutOfRange ∧ sync.IsOverlong s := by
  constructor
  · intro failed
    obtain ⟨before, w, after, parts, -, fails⟩ := mapM_eq_error.mp failed
    obtain ⟨same, long⟩ := compileOne_eq_error_iff.mp fails
    have mem : w ∈ sync.sources s := by simp [parts]
    exact ⟨same, exists_source_iff.mp ⟨w, mem, long⟩⟩
  · rintro ⟨rfl, overlong⟩
    obtain ⟨w, mem, long⟩ := exists_source_iff.mpr overlong
    cases h : (sync.sources s).mapM Store.compileOne with
    | ok lists =>
        obtain ⟨rules, hrules⟩ := exists_mapM_eq_ok.mp ⟨lists, h⟩ w mem
        rw [compileOne_eq_error_iff.mpr ⟨rfl, long⟩] at hrules
        cases hrules
    | error e =>
        obtain ⟨before, w', after, -, -, fails⟩ := mapM_eq_error.mp h
        rw [(compileOne_eq_error_iff.mp fails).1]

/-! ## What a sync leaves -/

/-- An overlong time is found before anything is written. -/
theorem procedure_of_overlong (overlong : sync.IsOverlong s) :
    sync.procedure s = .error (.compile .hoursOutOfRange) s := by
  rw [procedure_eq, perform_eq, mapM_compileOne_eq_error_iff.mpr ⟨rfl, overlong⟩]
  rfl

/-- Without one the rules are replaced, if they can be written. -/
theorem procedure_of_not_overlong (none : ¬sync.IsOverlong s) : ∃ compiled,
    sync.procedure s = s.result
      ((s.replaceRules sync.stem compiled).map fun s' => (s', compiled.length)) := by
  cases h : (sync.sources s).mapM Store.compileOne with
  | error e => exact absurd (mapM_compileOne_eq_error_iff.mp h).2 none
  | ok lists => exact ⟨lists.flatten, by rw [procedure_eq, perform_eq, h]; rfl⟩

theorem procedure_eq_error_iff {e : SyncError} : sync.procedure s = .error e s' ↔ s' = s ∧
    (sync.IsOverlong s ∧ e = .compile .hoursOutOfRange ∨
      ¬sync.IsOverlong s ∧ ∃ reason, s.fault? = some reason ∧ e = .write reason) := by
  by_cases overlong : sync.IsOverlong s
  · rw [procedure_of_overlong overlong]
    simp [overlong, eq_comm, and_comm]
  · obtain ⟨compiled, outcome⟩ := procedure_of_not_overlong overlong
    rw [outcome]
    cases fault : s.fault? with
    | none => simp [Store.replaceRules_ok _ _ _ fault, Store.result, overlong]
    | some reason =>
        simp [Store.replaceRules_fault _ _ _ _ fault, Store.result, overlong, Except.map, eq_comm,
          and_comm]

theorem procedure_eq_ok (h : sync.procedure s = .ok n s') : ∃ compiled : List Rule,
    n = compiled.length ∧ s' = { s with
      rules := s.rules.filter (fun r => !r.hasStem sync.stem) ++ compiled } := by
  have short : ¬sync.IsOverlong s := by
    intro overlong
    rw [procedure_of_overlong overlong] at h
    cases h
  obtain ⟨compiled, outcome⟩ := procedure_of_not_overlong short
  rw [outcome] at h
  cases replaced : s.replaceRules sync.stem compiled with
  | error e =>
      rw [replaced] at h
      cases h
  | ok found =>
      rw [replaced] at h
      cases h
      exact ⟨compiled, rfl, (Store.replaceRules_eq_ok.mp replaced).2⟩

end Sync

/-- When syncs fail, and what they leave. A workflow cannot be compiled exactly when it has an
overlong time. While rules can be written, a sync fails exactly when it comes upon such a
workflow, and if they cannot, it fails for this reason otherwise. After a failure the store is
what it was before; after a success the rules with the stem have given way to as many rules as
the sync tells. -/
theorem Store.sync_outcomes (s : Store) :
    (∀ w : Workflow, (∃ e, w.compile = .error e) ↔ w.IsOverlong) ∧
    ∀ sync : Sync,
      sync.procedure s = s.result (sync.perform s) ∧
      (s.fault? = none →
        ((∃ e s', sync.procedure s = .error e s') ↔ sync.IsOverlong s)) ∧
      (∀ reason, s.fault? = some reason → ¬sync.IsOverlong s →
        sync.procedure s = .error (.write reason) s) ∧
      (∀ e s', sync.procedure s = .error e s' → s' = s) ∧
      ∀ n s', sync.procedure s = .ok n s' → ∃ added : List Rule, n = added.length ∧
        s' = { s with rules := s.rules.filter (fun r => !r.hasStem sync.stem) ++ added } := by
  constructor
  · intro w
    constructor
    · rintro ⟨e, failed⟩
      exact Workflow.compile_eq_error_iff.mp failed
    · intro long
      exact ⟨.hoursOutOfRange, Workflow.compile_eq_error_iff.mpr long⟩
  intro sync
  refine ⟨sync.procedure_eq s, ?fails, ?unwritten, ?kept, fun n s' => Sync.procedure_eq_ok⟩
  case fails =>
    intro fault
    simp [Sync.procedure_eq_error_iff, fault]
  case unwritten =>
    intro reason fault short
    exact Sync.procedure_eq_error_iff.mpr ⟨rfl, .inr ⟨short, reason, fault, rfl⟩⟩
  case kept =>
    intro e s' failed
    exact (Sync.procedure_eq_error_iff.mp failed).1

/-- Tickets wait for some minutes at most. -/
def Workflow.waiting (minutes : Nat) : Workflow where
  id := "wf"
  name := "Waiting"
  nodes := ⟨[("t", ⟨"t", .trigger ⟨"create", []⟩, ⟨0, 0⟩⟩),
    ("s", ⟨"s", .state ⟨"Open", none, some (.int minutes), [], []⟩, ⟨0, 0⟩⟩),
    ("e", ⟨"e", .terminal ⟨"End"⟩, ⟨0, 0⟩⟩)], by simp⟩
  transitions := [.plain "t1" "t" "s" none, .plain "t2" "s" "e" none]
  entryId := "t"
  enabled := true
  version := 1
  description := none
  createdAt := none
  updatedAt := none

theorem Workflow.waiting_isOverlong_iff {minutes : Nat} :
    (waiting minutes).IsOverlong ↔ (Number.int minutes).IsOverlong := by
  constructor
  · rintro (⟨n, hn, d, long, data, deadline, overlong⟩ | ⟨t, -, -, n, d, long, hn, delay, -⟩)
    · obtain ⟨key, mem⟩ := Table.mem_values_iff.mp hn
      simp only [waiting, List.mem_cons, Prod.mk.injEq, List.not_mem_nil, or_false] at mem
      rcases mem with ⟨-, rfl⟩ | ⟨-, rfl⟩ | ⟨-, rfl⟩
      · cases data
      · cases data
        cases deadline
        exact overlong
      · cases data
    · have mem := Table.get?_eq_some_iff.mp hn
      simp only [waiting, List.mem_cons, Prod.mk.injEq, List.not_mem_nil, or_false] at mem
      rcases mem with ⟨-, rfl⟩ | ⟨-, rfl⟩ | ⟨-, rfl⟩ <;> cases delay
  · intro overlong
    exact .inl ⟨_, List.mem_cons_of_mem _ List.mem_cons_self, _, _, rfl, rfl, overlong⟩

namespace Store

/-- A rule by hand beside one of a workflow that is gone, and a workflow whose tickets wait. -/
def waitingRoom (minutes : Nat) (fault? : Option String) : Store :=
  ⟨.ofList [("wf", .waiting minutes)],
    [⟨"hand", .trigger, "By hand", true, [], []⟩, ⟨"wf-old-t-1", .trigger, "Old", true, [], []⟩],
    fault?⟩

theorem waitingRoom_isOverlong_iff {minutes : Nat} {fault? : Option String} :
    Sync.all.IsOverlong (waitingRoom minutes fault?) ↔ (Number.int minutes).IsOverlong := by
  have active : (waitingRoom minutes fault?).active = [.waiting minutes] := rfl
  simp [Sync.IsOverlong, active, Workflow.waiting_isOverlong_iff]

/-- With an hour and a half the rules of the workflow take the place of the old one. Nothing
changes when the rules cannot be written, or when no double is near the hours. -/
theorem waitingRoom_sync_outcomes :
    (∃ s' added, Sync.all.procedure (waitingRoom 90 none) = .ok added.length s' ∧
      s'.rules = (waitingRoom 90 none).rules.take 1 ++ added) ∧
    Sync.all.procedure (waitingRoom 90 (some "full")) =
      .error (.write "full") (waitingRoom 90 (some "full")) ∧
    ∃ e, Sync.all.procedure (waitingRoom (60 * 10 ^ 400) none) =
      .error e (waitingRoom (60 * 10 ^ 400) none) := by
  have short : ¬(Number.int (90 : Nat)).IsOverlong := by
    rintro ⟨n, same, -, beyond⟩
    cases same
    exact absurd beyond (by decide +kernel)
  have long : (Number.int (60 * 10 ^ 400 : Nat)).IsOverlong :=
    ⟨_, rfl, by decide +kernel, by decide +kernel⟩
  refine ⟨?success, ?unwritten, ?overlong⟩
  case success =>
    obtain ⟨-, fails, -, -, success⟩ := (sync_outcomes (waitingRoom 90 none)).2 .all
    cases h : Sync.all.procedure (waitingRoom 90 none) with
    | error e s' =>
        exact absurd ((fails rfl).mp ⟨e, s', h⟩) (mt waitingRoom_isOverlong_iff.mp short)
    | ok n s' =>
        obtain ⟨added, rfl, rfl⟩ := success n s' h
        exact ⟨_, added, rfl, rfl⟩
  case unwritten =>
    obtain ⟨-, -, unwritten, -, -⟩ := (sync_outcomes (waitingRoom 90 (some "full"))).2 .all
    exact unwritten "full" rfl (mt waitingRoom_isOverlong_iff.mp short)
  case overlong =>
    obtain ⟨-, fails, -, kept, -⟩ := (sync_outcomes (waitingRoom (60 * 10 ^ 400) none)).2 .all
    obtain ⟨e, s', failed⟩ := (fails rfl).mpr (waitingRoom_isOverlong_iff.mpr long)
    exact ⟨e, by rw [failed, kept e s' failed]⟩

end Store

end TicketFlow
