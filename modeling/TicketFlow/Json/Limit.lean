import TicketFlow.Json.Scalar
import TicketFlow.Json.Writer

/-!
# Limits of JSON texts

Texts are read and written within limits: on the digits of a whole number, on how
deep containers are nested, and on the width of an indentation. `writeWithin` writes
a value that keeps them and otherwise tells the first limit that is passed, in the
order in which the text would be written.
-/

namespace TicketFlow.Json

-- Powers are those of plain numbers, also where monoids have powers.
attribute [local instance (high)] instPowNat

/-- A limit that a value passes when it is written. -/
inductive Excess where
  /-- No machine word holds the indentation. -/
  | indentation
  /-- No memory holds a line that is indented so far. -/
  | width
  /-- A whole number has too many digits. -/
  | numeral
  /-- Containers are nested too deep. -/
  | nesting
deriving DecidableEq, Repr

/-- The least whole number with too many digits. -/
def longNumber : Nat := 10 ^ Numeral.maxDigits

/-- The widest indentation, and the widest unindentation, that a machine word holds. -/
def maxWord : Nat := 2 ^ (63 : Nat)

/-- The least indentation that no memory holds. -/
def hugeWidth : Nat := 2 ^ (40 : Nat)

/-- What an indentation passes. -/
def indentExcess? (indent : Int) : Option Excess :=
  if indent < -(maxWord : Int) ∨ (maxWord : Int) ≤ indent then some .indentation
  else if (hugeWidth : Int) ≤ indent then some .width
  else none

/-- What a number passes. -/
def numberExcess? : Number → Option Excess
  | .int n => if longNumber ≤ n.natAbs then some .numeral else none
  | .double _ => none

mutual

/-- What a value passes first, with room for a number of nested containers. -/
def excess? (room : Nat) : Value → Option Excess
  | .number n => numberExcess? n
  | .array items => if room = 0 then some .nesting else itemsExcess? (room - 1) items
  | .object fields => if room = 0 then some .nesting else fieldsExcess? (room - 1) fields
  | _ => none

/-- What the items of an array pass first. -/
def itemsExcess? (room : Nat) : List Value → Option Excess
  | [] => none
  | v :: rest => (excess? room v).or (itemsExcess? room rest)

/-- What the fields of an object pass first. -/
def fieldsExcess? (room : Nat) : List (String × Value) → Option Excess
  | [] => none
  | (_, v) :: rest => (excess? room v).or (fieldsExcess? room rest)

end

/-- Write a value that keeps the limits, with room for a number of nested containers. -/
def writeWithin (room : Nat) (indent : Int) (v : Value) : Except Excess String :=
  match (indentExcess? indent).or (excess? room v) with
  | some excess => .error excess
  | none => .ok (write indent v)

/-- What keeps the limits is written as without them. -/
theorem writeWithin_eq_ok_iff (room : Nat) (indent : Int) (v : Value) (text : String) :
    writeWithin room indent v = .ok text ↔
      indentExcess? indent = none ∧ excess? room v = none ∧ write indent v = text := by
  unfold writeWithin
  cases indentExcess? indent <;> cases excess? room v <;> simp

end TicketFlow.Json
