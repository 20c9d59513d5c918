import TicketFlow.Number.Shortest

/-!
# Numbers of a document

A document tells whole numbers, which are unbounded, from doubles: `1` and
`1.0` are different values that compare equal. Adding two whole numbers is
exact; as soon as a double takes part, the sum is a double. Comparison is
always exact, whatever the two kinds, and `nan` is below and above nothing.
-/

namespace TicketFlow

-- Powers are those of plain numbers, also where monoids have powers.
attribute [local instance (high)] instPowNat

/-- A number as a document writes it. -/
inductive Number where
  | int (n : Int)
  | double (d : Double)
deriving DecidableEq, Repr, Inhabited

namespace Number

/-- Where a number lies on the extended line. A finite one is
`significand · 2 ^ exponent`. -/
inductive Extent where
  | below
  | finite (significand exponent : Int)
  | above
  | nowhere

/-- The exact place of a number. -/
def extent : Number → Extent
  | .int n => .finite n 0
  | .double (.finite s m e _) => .finite (Double.signed s m) e
  | .double (.infinite s) => if s then .below else .above
  | .double .nan => .nowhere

/-- Strict order of the places. -/
def Extent.lt : Extent → Extent → Bool
  | .nowhere, _ => false
  | _, .nowhere => false
  | _, .below => false
  | .below, _ => true
  | .above, _ => false
  | .finite _ _, .above => true
  | .finite m e, .finite n f =>
    let low := min e f
    decide (m * 2 ^ (e - low).toNat < n * 2 ^ (f - low).toNat)

/-- `a.lt b` holds when `a` is smaller than `b`, compared exactly. -/
def lt (a b : Number) : Bool :=
  a.extent.lt b.extent

/-- Whether two numbers lie at the same place; nothing lies where `nan` is. -/
def same (a b : Number) : Bool :=
  match a.extent, b.extent with
  | .nowhere, _ => false
  | _, .nowhere => false
  | x, y => !x.lt y && !y.lt x

/-- Zero of any kind. -/
def isZero : Number → Bool
  | .int n => n == 0
  | .double d => d.isZero

/-- The integer that a number is equal to, if there is one. -/
def toInt? : Number → Option Int
  | .int n => some n
  | .double d => d.toInt?

/-- A whole number of either kind. -/
def isIntegral (a : Number) : Bool :=
  a.toInt?.isSome

/-- The integer part of a number; a number without one counts as zero. -/
def truncate : Number → Int
  | .int n => n
  | .double d => d.truncate?.getD 0

/-- Add a whole number. -/
def addInt : Number → Int → Number
  | .int n, k => .int (n + k)
  | .double d, k => .double (d.add (Double.ofInt k))

/-- The larger of two numbers; the first unless the second exceeds it. -/
def maxFirst (a b : Number) : Number :=
  if a.lt b then b else a

/-- The text of a number. -/
def display : Number → String
  | .int n => toString n
  | .double d => d.display

instance (n : Nat) : OfNat Number n := ⟨.int n⟩

@[simp] theorem addInt_int (n k : Int) : (Number.int n).addInt k = .int (n + k) := rfl

@[simp] theorem toInt?_int (n : Int) : (Number.int n).toInt? = some n := rfl

@[simp] theorem isIntegral_int (n : Int) : (Number.int n).isIntegral = true := rfl

@[simp] theorem isZero_int (n : Int) : (Number.int n).isZero = (n == 0) := rfl

theorem lt_int (m n : Int) : (Number.int m).lt (.int n) = decide (m < n) := by
  simp [lt, extent, Extent.lt]

@[simp] theorem same_int (m n : Int) : (Number.int m).same (.int n) = decide (m = n) := by
  have below := lt_int m n
  have above := lt_int n m
  simp only [lt, extent] at below above
  simp only [same, extent, below, above]
  by_cases h : m = n
  · simp [h]
  · by_cases hlt : m < n
    · simp [h, hlt]
    · have : n < m := by omega
      simp [h, this]

@[simp] theorem lt_nan (a : Number) : a.lt (.double .nan) = false := by
  rcases a with n | (_ | s | _) <;> first | rfl | (cases s <;> rfl)

@[simp] theorem nan_lt (a : Number) : (Number.double .nan).lt a = false := rfl

end Number

end TicketFlow
