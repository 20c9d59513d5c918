import TicketFlow.Number.Rounding

/-!
# Binary floating point in exact arithmetic

A `Double` is a signed multiple of a power of two with at most 53 significant
bits, an infinity, or no number at all. Every operation computes its exact
rational result in integers and rounds it once, to the nearest representable
number, a half going to the even significand. No machine arithmetic is
involved, so an equation between concrete doubles can be decided by evaluation
and a law about rounding is a law about `Nat`.

`ofRatio` is the only place that rounds; reading a decimal, adding, and
dividing by a natural number are all stated through it.
-/

namespace TicketFlow

-- Powers are those of plain numbers, also where monoids have powers.
attribute [local instance (high)] instPowNat

/-- The normal form of a finite double: the significand is below `2 ^ 53`, the
exponent is one of the format, and it is the smallest one unless the significand
reaches `2 ^ 52`. -/
structure Double.Normal (significand : Nat) (exponent : Int) : Prop where
  significand_lt : significand < 2 ^ (53 : Nat)
  minExponent_le : Double.minExponent ≤ exponent
  le_maxExponent : exponent ≤ Double.maxExponent
  leading : exponent = Double.minExponent ∨ 2 ^ (52 : Nat) ≤ significand

/-- A double-precision number. A finite one is in normal form, so each value has
one representation, apart from the sign of zero. -/
inductive Double where
  | finite (negative : Bool) (significand : Nat) (exponent : Int)
      (normal : Double.Normal significand exponent)
  | infinite (negative : Bool)
  | nan
deriving DecidableEq, Repr, Inhabited

namespace Double

theorem normal_zero : Normal 0 minExponent :=
  ⟨by decide, by decide, by decide, Or.inl rfl⟩

/-- Zero keeps a sign. -/
def zero (negative : Bool) : Double :=
  .finite negative 0 minExponent normal_zero

/-- The double with a significand below `2 ^ 53`; an exponent beyond the last one
gives an infinity. -/
def ofParts (negative : Bool) (significand : Nat) (exponent : Int)
    (significand_lt : significand < 2 ^ (53 : Nat)) (minExponent_le : minExponent ≤ exponent)
    (leading : exponent = minExponent ∨ 2 ^ (52 : Nat) ≤ significand) : Double :=
  if le_maxExponent : exponent ≤ maxExponent then
    .finite negative significand exponent
      ⟨significand_lt, minExponent_le, le_maxExponent, leading⟩
  else .infinite negative

/-- The double nearest to `± num / den`; it is zero when `den` is. Rounding can
carry the significand up to `2 ^ 53`, one bit too long. -/
def ofRatio (negative : Bool) (num den : Nat) : Double :=
  if h : num = 0 ∨ den = 0 then zero negative
  else
    have hnum : num ≠ 0 := fun e => h (Or.inl e)
    have hden : den ≠ 0 := fun e => h (Or.inr e)
    if carried : ratioSignificand num den = 2 ^ (53 : Nat) then
      ofParts negative (2 ^ (52 : Nat)) (ratioExponent num den + 1) (by decide)
        (Int.le_trans (minExponent_le_ratioExponent num den) (by omega))
        (Or.inr (Nat.le_refl _))
    else
      ofParts negative (ratioSignificand num den) (ratioExponent num den)
        (Nat.lt_of_le_of_ne (ratioSignificand_le hden) carried)
        (minExponent_le_ratioExponent num den)
        ((Decidable.em _).imp_right (le_ratioSignificand hnum hden))

/-- The double nearest to `± m · 2 ^ e`. -/
def ofScaled (negative : Bool) (m : Nat) (e : Int) : Double :=
  ofRatio negative (m * 2 ^ e.toNat) (2 ^ (-e).toNat)

/-- The double nearest to an integer. -/
def ofInt (n : Int) : Double :=
  ofRatio (decide (n < 0)) n.natAbs 1

/-- The number of decimal digits of a natural number; zero has one. -/
def decimalLength (n : Nat) : Nat :=
  (Nat.toDigits 10 n).length

/-- The double nearest to `± digits · 10 ^ exponent`. Far outside the range the
answer is known from the number of digits alone, and the power is not formed. -/
def ofDecimal (negative : Bool) (digits : Nat) (exponent : Int) : Double :=
  let reach := (decimalLength digits : Int) + exponent
  if digits = 0 then zero negative
  else if 310 < reach then .infinite negative
  else if reach < -330 then zero negative
  else ofRatio negative (digits * 10 ^ exponent.toNat) (10 ^ (-exponent).toNat)

/-- The signed significand. -/
def signed (negative : Bool) (significand : Nat) : Int :=
  if negative then -(significand : Int) else significand

/-- The exact sum, rounded. A sum that cancels is positive zero, and only two
negative zeros make a negative one. Opposite infinities have no sum. -/
def add : Double → Double → Double
  | .nan, _ => .nan
  | _, .nan => .nan
  | .infinite s, .infinite t => if s = t then .infinite s else .nan
  | .infinite s, .finite .. => .infinite s
  | .finite .., .infinite t => .infinite t
  | .finite s m e _, .finite t n f _ =>
    let low := min e f
    let total :=
      signed s m * 2 ^ (e - low).toNat + signed t n * 2 ^ (f - low).toNat
    if total = 0 then zero (s && t)
    else ofScaled (decide (total < 0)) total.natAbs low

/-- The exact quotient by a positive natural number, rounded. -/
def divNat : Double → Nat → Double
  | .finite s m e _, k => ofRatio s (m * 2 ^ e.toNat) (k * 2 ^ (-e).toNat)
  | d, _ => d

/-- Zero of either sign. -/
def isZero : Double → Bool
  | .finite _ m _ _ => m == 0
  | _ => false

/-- The integer that a double is equal to, if there is one. -/
def toInt? : Double → Option Int
  | .finite s m e _ =>
    let den := 2 ^ (-e).toNat
    if m % den = 0 then some (signed s (m / den * 2 ^ e.toNat)) else none
  | _ => none

/-- The integer part: what remains when the digits after the point are
dropped. Infinities and `nan` have none. -/
def truncate? : Double → Option Int
  | .finite s m e _ => some (signed s (m * 2 ^ e.toNat / 2 ^ (-e).toNat))
  | _ => none

@[simp] theorem isZero_zero (s : Bool) : (zero s).isZero = true := rfl

@[simp] theorem ofRatio_zero (s : Bool) (den : Nat) : ofRatio s 0 den = zero s := by
  simp [ofRatio]

@[simp] theorem add_nan (d : Double) : add d .nan = .nan := by
  cases d <;> rfl

@[simp] theorem divNat_nan (k : Nat) : divNat .nan k = .nan := rfl

@[simp] theorem divNat_infinite (s : Bool) (k : Nat) :
    divNat (.infinite s) k = .infinite s := rfl

end Double

end TicketFlow
