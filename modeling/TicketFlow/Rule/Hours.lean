import TicketFlow.Number.Basic

/-!
# Minutes in hours

The engine measures idle time in hours, workflows set it in minutes. The
quotient by sixty is the nearest double, and a double that is a whole number is
turned into one. A whole number of minutes can be so large that no double is
near its quotient; only then does the conversion fail.
-/

namespace TicketFlow

/-- Why a workflow has no rules. -/
inductive CompileError where
  /-- A number of hours is too large for a double. -/
  | hoursOutOfRange
deriving DecidableEq, Repr

namespace Number

/-- A double that is a whole number as a whole number. -/
def ofHours (d : Double) : Number :=
  match d.toInt? with
  | some n => .int n
  | none => .double d

/-- A number of minutes in hours. -/
def minutesToHours : Number → Except CompileError Number
  | .int n =>
    match Double.ofRatio (decide (n < 0)) n.natAbs 60 with
    | .infinite _ => .error .hoursOutOfRange
    | d => .ok (ofHours d)
  | .double d => .ok (ofHours (d.divNat 60))

end Number

end TicketFlow
