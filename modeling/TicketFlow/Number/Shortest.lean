import TicketFlow.Number.Double

/-!
# The shortest decimal of a double

A finite double is written with the fewest decimal digits that read back as
the same double, and of the candidates with that many digits the nearest one.
The search runs over the decimal grids with one to seventeen digits: on each
grid only the two neighbours of the exact value can lie in the interval of
reals that round to the double, and all comparisons are between integers.

`display` then lays the digits out. The exponent form is used exactly when the
decimal exponent is below `-4` or at least `16`; a positional number keeps at
least one digit after the point.
-/

namespace TicketFlow.Double

-- Powers are those of plain numbers, also where monoids have powers.
attribute [local instance (high)] instPowNat

/-- A positive decimal number `digits · 10 ^ exponent`. -/
structure Decimal where
  digits : Nat
  exponent : Int
deriving DecidableEq, Repr

namespace Decimal

/-- Compare `digits · 10 ^ exponent` with `m · 2 ^ e`. -/
def compareScaled (d : Decimal) (m : Nat) (e : Int) : Ordering :=
  compare (d.digits * 10 ^ d.exponent.toNat * 2 ^ (-e).toNat)
    (m * 2 ^ e.toNat * 10 ^ (-d.exponent).toNat)

/-- Move trailing zeros of the digits into the exponent, at most `fuel` of them. -/
def trim : Nat → Decimal → Decimal
  | 0, d => d
  | fuel + 1, d =>
    if d.digits % 10 = 0 then trim fuel ⟨d.digits / 10, d.exponent + 1⟩ else d

end Decimal

/-- Whether a decimal reads back as the positive double `m · 2 ^ e`. The reals
that do lie between the midpoints to the two neighbouring doubles, which belong
to the interval when `m` is even. Below a power of two the spacing is halved. -/
def readsBack (m : Nat) (e : Int) (d : Decimal) : Bool :=
  let below := if m = 2 ^ (52 : Nat) ∧ minExponent < e then 4 * m - 1 else 4 * m - 2
  let low := d.compareScaled below (e - 2)
  let high := d.compareScaled (4 * m + 2) (e - 2)
  if m % 2 = 0 then low != .lt && high != .gt else low == .gt && high == .lt

/-- The decimal exponent just above `num / den`: the ratio lies between its
tenth and itself. -/
def decimalReach (num den : Nat) : Int :=
  if den ≤ num then decimalLength (num / den) else 1 - (decimalLength (den / num) : Int)

/-- The better of the two neighbours of `m · 2 ^ e` on the grid of multiples of
`10 ^ g`, among those that read back. Of two the nearer is taken, and the even
one if both are equally near. -/
def onGrid (m : Nat) (e g : Int) : Option Decimal :=
  let num := m * 2 ^ e.toNat * 10 ^ (-g).toNat
  let den := 2 ^ (-e).toNat * 10 ^ g.toNat
  let q := num / den
  let r := num % den
  let lower : Decimal := ⟨q, g⟩
  let upper : Decimal := ⟨q + 1, g⟩
  match readsBack m e lower, readsBack m e upper with
  | true, true =>
    if 2 * r < den then some lower
    else if den < 2 * r then some upper
    else if q % 2 = 0 then some lower else some upper
  | true, false => some lower
  | false, true => some upper
  | false, false => none

/-- The first hit on the grids with `count` digits and more, at most `fuel` of
them. -/
def searchGrids (m : Nat) (e reach : Int) : Nat → Nat → Option Decimal
  | 0, _ => none
  | fuel + 1, count =>
    (onGrid m e (reach - count)).orElse fun _ => searchGrids m e reach fuel (count + 1)

/-- The shortest decimal that reads back as the positive double `m · 2 ^ e`.
Seventeen digits always suffice. -/
def shortest (m : Nat) (e : Int) : Decimal :=
  let reach := decimalReach (m * 2 ^ e.toNat) (2 ^ (-e).toNat)
  ((searchGrids m e reach 17 1).getD ⟨0, 0⟩).trim 18

/-- A run of zeros. -/
def zeros (n : Nat) : String :=
  String.ofList (List.replicate n '0')

/-- The exponent of the exponent form: always signed, of two digits at least. -/
def exponentText (e : Int) : String :=
  let digits := Nat.repr e.natAbs
  let padded := if digits.length < 2 then "0" ++ digits else digits
  (if e < 0 then "-" else "+") ++ padded

/-- Lay out a positive decimal number. -/
def layout (d : Decimal) : String :=
  let digits := Nat.toDigits 10 d.digits
  let count := digits.length
  let point : Int := count + d.exponent
  let scientific := point - 1
  if scientific < -4 ∨ 16 ≤ scientific then
    let fraction := if count ≤ 1 then "" else "." ++ String.ofList (digits.drop 1)
    String.ofList (digits.take 1) ++ fraction ++ "e" ++ exponentText scientific
  else if point ≤ 0 then
    "0." ++ zeros (-point).toNat ++ String.ofList digits
  else if count ≤ point then
    String.ofList digits ++ zeros (point - count).toNat ++ ".0"
  else
    String.ofList (digits.take point.toNat) ++ "." ++ String.ofList (digits.drop point.toNat)

/-- The text of a double. -/
def display : Double → String
  | .nan => "nan"
  | .infinite s => (if s then "-" else "") ++ "inf"
  | .finite s m e _ =>
    (if s then "-" else "") ++ (if m = 0 then "0.0" else layout (shortest m e))

end TicketFlow.Double
