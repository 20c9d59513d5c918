import TicketFlow.Proofs.Number.Range
import TicketFlow.Proofs.Rule.Origin

/-!
# When a workflow has no rules

Times are set in minutes and compiled to hours, and so many minutes can be set that no
double is near their hours. Compiling looks at the deadlines of states and at the delays
that a transition leaves, and it fails exactly when one of these is so long: a whole
number of minutes whose hours are rounded beyond the largest finite double.
-/

namespace TicketFlow

open Fallible

/-- Minutes without hours: not zero, and too many. -/
def Number.HasNoHours (minutes : Number) : Prop :=
  minutes.isZero = false ∧ minutes.minutesToHours = .error .hoursOutOfRange

/-- A delay of a time that cannot be told in hours. -/
def DelayData.IsEndless (d : DelayData) : Prop :=
  d.isTimed = true ∧ ∃ minutes, d.minutes = some minutes ∧ minutes.HasNoHours

/-- A state with a deadline that cannot be told in hours. -/
def StateData.IsEndless (d : StateData) : Prop :=
  ∃ minutes, d.slaMinutes = some minutes ∧ minutes.HasNoHours

/-- A whole number of minutes, not zero, whose hours are rounded beyond the largest finite
double. -/
def Number.IsOverlong (minutes : Number) : Prop :=
  ∃ n : Int, minutes = .int n ∧ n ≠ 0 ∧ Double.RoundsBeyond n.natAbs 60

/-- Minutes that are a double always have hours, if need be infinitely many. -/
theorem Number.minutesToHours_eq_error_iff {minutes : Number} {e : CompileError} :
    minutes.minutesToHours = .error e ↔
      ∃ n : Int, minutes = .int n ∧ Double.RoundsBeyond n.natAbs 60 := by
  cases minutes with
  | double d => simp [minutesToHours]
  | int n =>
      cases e
      have infinite : ∀ s, Double.ofRatio (decide (n < 0)) n.natAbs 60 = .infinite s ↔
          Double.RoundsBeyond n.natAbs 60 ∧ decide (n < 0) = s :=
        fun _ => Double.ofRatio_eq_infinite_iff (by decide)
      simp only [minutesToHours, int.injEq, exists_eq_left']
      split
      case h_1 s same => simp [((infinite s).mp same).1]
      case h_2 d other =>
        have within : ¬Double.RoundsBeyond n.natAbs 60 := fun beyond =>
          other _ ((infinite _).mpr ⟨beyond, rfl⟩)
        simp [within]

theorem Number.hasNoHours_iff_isOverlong {minutes : Number} :
    minutes.HasNoHours ↔ minutes.IsOverlong := by
  rw [HasNoHours, minutesToHours_eq_error_iff, IsOverlong]
  constructor
  · rintro ⟨zero, n, rfl, beyond⟩
    exact ⟨n, rfl, by simpa using zero, beyond⟩
  · rintro ⟨n, rfl, zero, beyond⟩
    exact ⟨by simpa using zero, n, rfl, beyond⟩

theorem Number.exists_hours_iff {minutes : Number} (h : minutes.isZero = false) :
    (∃ hours, minutes.minutesToHours = .ok hours) ↔ ¬minutes.HasNoHours := by
  rw [HasNoHours]
  cases hours : minutes.minutesToHours with
  | ok hours => simp
  | error e =>
      cases e
      simp [h]

/-- The guard of a delay is lost on its time only. -/
theorem DelayData.exists_guard_iff {d : DelayData} :
    (∃ guard, d.guard = .ok guard) ↔ ¬d.IsEndless := by
  rw [guard, IsEndless]
  cases timed : d.isTimed with
  | false =>
      simp only [Bool.false_eq_true, if_false, false_and, not_false_iff, iff_true]
      split
      · split <;> exact ⟨_, rfl⟩
      · exact ⟨_, rfl⟩
  | true =>
      cases hminutes : d.minutes with
      | none => simp
      | some minutes =>
          cases zero : minutes.isZero with
          | true => simp [zero, Number.HasNoHours]
          | false =>
              have hours := Number.exists_hours_iff zero
              simpa [zero, exists_map_eq_ok] using hours

namespace NodeData

theorem exists_exitGuard_iff (data : NodeData) (branchKey : Option String) :
    (∃ guard, data.exitGuard branchKey = .ok guard) ↔
      ∀ d, data = .delay d → ¬d.IsEndless := by
  cases data with
  | delay d => simp [exitGuard, DelayData.exists_guard_iff]
  | condition d => simp [exitGuard]
  | trigger d => simp [exitGuard]
  | state d => simp [exitGuard]
  | action d => simp [exitGuard]
  | terminal d => simp [exitGuard]

end NodeData

namespace Workflow

variable {w : Workflow} {t : Transition}

theorem transitionRule_of_unknown
    (h : ¬(t.source ∈ w.nodes.keys ∧ t.target ∈ w.nodes.keys)) :
    w.transitionRule t = .ok none := by
  rw [Table.mem_keys_iff, Table.mem_keys_iff] at h
  rw [transitionRule]
  cases hs : w.nodes.get? t.source with
  | none => rfl
  | some source =>
      cases ht : w.nodes.get? t.target with
      | none => rfl
      | some target => exact absurd ⟨⟨source, hs⟩, target, ht⟩ h

/-- With ends that resolve a transition is compiled unless it leaves an endless delay. -/
theorem exists_transitionRule_iff {source : Node} (hs : w.nodes.get? t.source = some source)
    (ht : t.target ∈ w.nodes.keys) :
    (∃ rule?, w.transitionRule t = .ok rule?) ↔
      ∀ d, source.data = .delay d → ¬d.IsEndless := by
  obtain ⟨target, htarget⟩ := Table.mem_keys_iff.mp ht
  rw [← source.data.exists_exitGuard_iff t.branchKey]
  simp [transitionRule, moveRule, hs, htarget, exists_map_eq_ok]

theorem exists_deadlineRule_iff {key : String} {d : StateData} :
    (∃ late, w.deadlineRule key d = .ok late) ↔ ¬d.IsEndless := by
  rw [deadlineRule, StateData.IsEndless]
  cases hminutes : d.slaMinutes with
  | none => simp
  | some minutes =>
      cases zero : minutes.isZero with
      | true => simp [zero, Number.HasNoHours]
      | false =>
          have hours := Number.exists_hours_iff zero
          simpa [zero, exists_map_eq_ok] using hours

/-- The rules of a node are lost on the deadline of a state only. -/
theorem exists_nodeRules_iff {n : Node} : (∃ found, w.nodeRules n = .ok found) ↔
    ∀ d, n.data = .state d → ¬d.IsEndless := by
  rw [nodeRules]
  cases hstate : n.data.state? with
  | none =>
      have other : ∀ d, n.data ≠ .state d := fun d hd => by simp [hd, NodeData.state?] at hstate
      simp [other]
  | some d =>
      rw [NodeData.state?_eq_some] at hstate
      simp [hstate, exists_map_eq_ok, exists_deadlineRule_iff]

/-- A workflow has rules exactly when no delay that a transition leaves and no deadline is
endless. The transitions that leave the trigger at the entry, and those with an unknown
end, do not count. -/
theorem exists_compile_iff : (∃ rules, w.compile = .ok rules) ↔
    (∀ t ∈ w.transitions, w.movesBy t = true → ∀ source, w.nodes.get? t.source = some source →
      ∀ d, source.data = .delay d → ¬d.IsEndless) ∧
    ∀ n ∈ w.nodes.values, ∀ d, n.data = .state d → ¬d.IsEndless := by
  rw [exists_compile_eq_ok]
  apply and_congr
  · apply forall₂_congr
    intro t _
    by_cases known : t.source ∈ w.nodes.keys ∧ t.target ∈ w.nodes.keys
    · obtain ⟨source, hs⟩ := Table.mem_keys_iff.mp known.1
      rw [movesBy_eq_true, exists_transitionRule_iff hs known.2]
      simp [known, hs]
    · rw [movesBy_eq_true, transitionRule_of_unknown known]
      simp [known]
  · exact forall₂_congr fun n _ => exists_nodeRules_iff

/-- A state has an overlong deadline, or a transition with two ends that resolve leaves a
delay of an overlong time. -/
def IsOverlong (w : Workflow) : Prop :=
  (∃ n ∈ w.nodes.values, ∃ d minutes, n.data = .state d ∧ d.slaMinutes = some minutes ∧
    minutes.IsOverlong) ∨
  ∃ t ∈ w.transitions, t.target ∈ w.nodes.keys ∧ ∃ n d minutes,
    w.nodes.get? t.source = some n ∧ n.data = .delay d ∧ d.kind = "time" ∧
      d.minutes = some minutes ∧ minutes.IsOverlong

/-- Compiling fails exactly on overlong times. -/
theorem compile_eq_error_iff {e : CompileError} : w.compile = .error e ↔ w.IsOverlong := by
  have failed : w.compile = .error e ↔ ¬∃ rules, w.compile = .ok rules := by
    cases w.compile with
    | ok rules => simp
    | error e' => cases e; cases e'; simp
  have deadlines : (¬∀ n ∈ w.nodes.values, ∀ d, n.data = .state d → ¬d.IsEndless) ↔
      ∃ n ∈ w.nodes.values, ∃ d minutes, n.data = .state d ∧ d.slaMinutes = some minutes ∧
        minutes.IsOverlong := by
    simp [StateData.IsEndless, Number.hasNoHours_iff_isOverlong]
  rw [failed, exists_compile_iff, not_and_or, deadlines, or_comm, IsOverlong]
  apply or_congr_right
  constructor
  · intro some
    by_contra none
    apply some
    rintro t ht moves n hn d delay ⟨timed, minutes, hminutes, long⟩
    exact none ⟨t, ht, (movesBy_eq_true.mp moves).2.2, n, d, minutes, hn, delay,
      beq_iff_eq.mp timed, hminutes, Number.hasNoHours_iff_isOverlong.mp long⟩
  · rintro ⟨t, ht, known, n, d, minutes, hn, delay, timed, hminutes, long⟩ all
    have ordinary : w.isEntryTransition t = false :=
      isEntryTransition_of_not_trigger hn (by rw [delay]; rfl)
    have moves : w.movesBy t = true :=
      movesBy_eq_true.mpr ⟨ordinary, Table.mem_keys_iff.mpr ⟨n, hn⟩, known⟩
    exact all t ht moves n hn d delay ⟨beq_iff_eq.mpr timed, minutes, hminutes,
      Number.hasNoHours_iff_isOverlong.mpr long⟩

end Workflow

end TicketFlow
