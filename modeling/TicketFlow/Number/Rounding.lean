/-!
# Rounding a quotient to a number of bits

A quotient of natural numbers is rounded to a significand times a power of two.
The exponent comes from the binary logarithm of the quotient, and the
significand is the natural number nearest to the quotient at that scale. Powers
with a negative exponent stand on the other side of a comparison, so `2 ^ e` is
written as `2 ^ e.toNat` on one side and `2 ^ (-e).toNat` on the other.

The main statements bound the significand that rounding can give.
-/

namespace TicketFlow.Double

-- Powers are those of plain numbers, also where monoids have powers.
attribute [local instance (high)] instPowNat

/-- The exponent of the smallest positive double. -/
def minExponent : Int := -1074

/-- The exponent of the largest finite doubles. -/
def maxExponent : Int := 971

/-- The natural number nearest to `num / den`; a half goes to the even one. -/
def nearestQuotient (num den : Nat) : Nat :=
  let q := num / den
  let r := num % den
  if 2 * r < den then q
  else if den < 2 * r then q + 1
  else q + q % 2

/-- The floor of the binary logarithm of `num / den`, for positive arguments.
The difference of the two logarithms exceeds it by at most one. -/
def ratioLog (num den : Nat) : Int :=
  let k : Int := (num.log2 : Int) - den.log2
  if den * 2 ^ k.toNat ≤ num * 2 ^ (-k).toNat then k else k - 1

/-- The exponent at which `num / den` is rounded: the quotient has 53 bits there,
or the exponent is the smallest there is. -/
def ratioExponent (num den : Nat) : Int :=
  max (ratioLog num den - 52) minExponent

/-- The significand that `num / den` is rounded to, at its exponent. -/
def ratioSignificand (num den : Nat) : Nat :=
  let e := ratioExponent num den
  nearestQuotient (num * 2 ^ (-e).toNat) (den * 2 ^ e.toNat)

theorem div_le_nearestQuotient (num den : Nat) : num / den ≤ nearestQuotient num den := by
  unfold nearestQuotient
  dsimp only
  split
  · exact Nat.le_refl _
  · split
    · exact Nat.le_succ _
    · exact Nat.le_add_right _ _

theorem nearestQuotient_le_div_succ (num den : Nat) :
    nearestQuotient num den ≤ num / den + 1 := by
  unfold nearestQuotient
  dsimp only
  split
  · exact Nat.le_succ _
  · split
    · exact Nat.le_refl _
    · have := Nat.mod_lt (num / den) (by decide : 2 > 0)
      omega

theorem le_nearestQuotient {num den c : Nat} (hden : 0 < den) (h : c * den ≤ num) :
    c ≤ nearestQuotient num den :=
  Nat.le_trans ((Nat.le_div_iff_mul_le hden).mpr h) (div_le_nearestQuotient num den)

/-- What lies strictly below the middle between `c` and its successor is not
rounded beyond `c`. -/
theorem nearestQuotient_le {num den c : Nat} (hden : 0 < den)
    (h : 2 * num < 2 * (c * den) + den) : nearestQuotient num den ≤ c := by
  have split_num : den * (num / den) + num % den = num := Nat.div_add_mod num den
  have hq : num / den < c + 1 := by
    rw [Nat.div_lt_iff_lt_mul hden, Nat.succ_mul]
    omega
  rcases Nat.lt_or_ge (num / den) c with below | above
  · exact Nat.le_trans (nearestQuotient_le_div_succ num den) below
  · have hc : num / den = c := by omega
    have hr : 2 * (num % den) < den := by
      rw [hc, Nat.mul_comm] at split_num
      omega
    simp [nearestQuotient, hr, hc]

/-- A quotient without remainder is not rounded at all. -/
theorem nearestQuotient_mul {c den : Nat} (hden : 0 < den) : nearestQuotient (c * den) den = c := by
  simp [nearestQuotient, Nat.mul_div_cancel _ hden, hden]

/-- A power of two that is not above a quotient, seen at a smaller scale. -/
theorem scaled_le {num den c : Nat} {e l : Int} (hel : e + c ≤ l)
    (h : den * 2 ^ l.toNat ≤ num * 2 ^ (-l).toNat) :
    2 ^ c * (den * 2 ^ e.toNat) ≤ num * 2 ^ (-e).toNat := by
  have exponents : 2 ^ c * 2 ^ e.toNat * 2 ^ (-l).toNat ≤ 2 ^ l.toNat * 2 ^ (-e).toNat := by
    simp only [← Nat.pow_add]
    exact Nat.pow_le_pow_right (by decide) (by omega)
  apply Nat.le_of_mul_le_mul_right _ (Nat.two_pow_pos (-l).toNat)
  calc 2 ^ c * (den * 2 ^ e.toNat) * 2 ^ (-l).toNat
      = den * (2 ^ c * 2 ^ e.toNat * 2 ^ (-l).toNat) := by ac_rfl
    _ ≤ den * (2 ^ l.toNat * 2 ^ (-e).toNat) := Nat.mul_le_mul_left _ exponents
    _ = den * 2 ^ l.toNat * 2 ^ (-e).toNat := (Nat.mul_assoc _ _ _).symm
    _ ≤ num * 2 ^ (-l).toNat * 2 ^ (-e).toNat := Nat.mul_le_mul_right _ h
    _ = num * 2 ^ (-e).toNat * 2 ^ (-l).toNat := by ac_rfl

/-- A power of two that is above a quotient, seen at another scale. -/
theorem lt_scaled {num den c : Nat} {e l : Int} (hel : l ≤ e + c)
    (h : num * 2 ^ (-l).toNat < den * 2 ^ l.toNat) :
    num * 2 ^ (-e).toNat < 2 ^ c * (den * 2 ^ e.toNat) := by
  have exponents : 2 ^ l.toNat * 2 ^ (-e).toNat ≤ 2 ^ c * 2 ^ e.toNat * 2 ^ (-l).toNat := by
    simp only [← Nat.pow_add]
    exact Nat.pow_le_pow_right (by decide) (by omega)
  apply Nat.lt_of_mul_lt_mul_right (a := 2 ^ (-l).toNat)
  calc num * 2 ^ (-e).toNat * 2 ^ (-l).toNat
      = num * 2 ^ (-l).toNat * 2 ^ (-e).toNat := by ac_rfl
    _ < den * 2 ^ l.toNat * 2 ^ (-e).toNat :=
        Nat.mul_lt_mul_of_pos_right h (Nat.two_pow_pos _)
    _ = den * (2 ^ l.toNat * 2 ^ (-e).toNat) := Nat.mul_assoc _ _ _
    _ ≤ den * (2 ^ c * 2 ^ e.toNat * 2 ^ (-l).toNat) := Nat.mul_le_mul_left _ exponents
    _ = 2 ^ c * (den * 2 ^ e.toNat) * 2 ^ (-l).toNat := by ac_rfl

private theorem two_pow_mul_two_pow {a b c d : Nat} (h : a + b = c + d) :
    2 ^ a * 2 ^ b = 2 ^ c * 2 ^ d := by
  rw [← Nat.pow_add, ← Nat.pow_add, h]

/-- A quotient reaches two to the power of its logarithm. -/
theorem ratioLog_le {num den : Nat} (hnum : num ≠ 0) :
    den * 2 ^ (ratioLog num den).toNat ≤ num * 2 ^ (-ratioLog num den).toNat := by
  unfold ratioLog
  dsimp only
  split
  · assumption
  · generalize hk : (num.log2 : Int) - den.log2 = k
    have hden : den ≤ 2 ^ (den.log2 + 1) := Nat.le_of_lt Nat.lt_log2_self
    calc den * 2 ^ (k - 1).toNat ≤ 2 ^ (den.log2 + 1) * 2 ^ (k - 1).toNat :=
          Nat.mul_le_mul_right _ hden
      _ = 2 ^ num.log2 * 2 ^ (-(k - 1)).toNat := two_pow_mul_two_pow (by omega)
      _ ≤ num * 2 ^ (-(k - 1)).toNat := Nat.mul_le_mul_right _ (Nat.log2_self_le hnum)

/-- A quotient stays below twice two to the power of its logarithm. -/
theorem lt_ratioLog_succ {num den : Nat} (hden : den ≠ 0) :
    num * 2 ^ (-(ratioLog num den + 1)).toNat < den * 2 ^ (ratioLog num den + 1).toNat := by
  unfold ratioLog
  dsimp only
  generalize hk : (num.log2 : Int) - den.log2 = k
  split
  · calc num * 2 ^ (-(k + 1)).toNat < 2 ^ (num.log2 + 1) * 2 ^ (-(k + 1)).toNat :=
          Nat.mul_lt_mul_of_pos_right Nat.lt_log2_self (Nat.two_pow_pos _)
      _ = 2 ^ den.log2 * 2 ^ (k + 1).toNat := two_pow_mul_two_pow (by omega)
      _ ≤ den * 2 ^ (k + 1).toNat := Nat.mul_le_mul_right _ (Nat.log2_self_le hden)
  · rw [show k - 1 + 1 = k by omega]
    omega

theorem ratioLog_le_ratioExponent (num den : Nat) :
    ratioLog num den - 52 ≤ ratioExponent num den :=
  Int.le_max_left _ _

theorem minExponent_le_ratioExponent (num den : Nat) : minExponent ≤ ratioExponent num den :=
  Int.le_max_right _ _

private theorem scaled_pos {den : Nat} (hden : den ≠ 0) (e : Int) : 0 < den * 2 ^ e.toNat :=
  Nat.mul_pos (Nat.pos_of_ne_zero hden) (Nat.two_pow_pos _)

/-- Rounding gives at most 53 bits, or the next power of two. -/
theorem ratioSignificand_le {num den : Nat} (hden : den ≠ 0) :
    ratioSignificand num den ≤ 2 ^ (53 : Nat) := by
  have reach := ratioLog_le_ratioExponent num den
  have below := lt_scaled (c := 53) (e := ratioExponent num den) (by omega)
    (@lt_ratioLog_succ num _ hden)
  apply nearestQuotient_le (scaled_pos hden _)
  omega

/-- Above the smallest exponent rounding uses all 53 bits. -/
theorem le_ratioSignificand {num den : Nat} (hnum : num ≠ 0) (hden : den ≠ 0)
    (h : ratioExponent num den ≠ minExponent) : 2 ^ (52 : Nat) ≤ ratioSignificand num den := by
  have exponent : ratioExponent num den = ratioLog num den - 52 := by
    unfold ratioExponent at h ⊢
    omega
  apply le_nearestQuotient (scaled_pos hden _)
  exact scaled_le (c := 52) (by omega) (ratioLog_le hnum)

end TicketFlow.Double
