import TicketFlow.Proofs.Number.Count
import TicketFlow.Proofs.Number.Order

/-!
# Rounded quotients as rational numbers

A rounded quotient is a rational number that is at most half a unit of its last bit away
from the exact one. Rounding keeps the order: within one exponent it rounds at the same
scale, and from one exponent to the next it passes a power of two.
-/

namespace TicketFlow

-- Powers are those of plain numbers, also where monoids have powers.
attribute [local instance (high)] instPowNat

namespace Double

variable {num num' den : Nat}

/-! ## The nearest natural number -/

theorem nearestQuotient_mono (h : num ≤ num') :
    nearestQuotient num den ≤ nearestQuotient num' den := by
  rcases Nat.eq_or_lt_of_le (Nat.div_le_div_right (c := den) h) with same | above
  · have parts : den * (num / den) + num % den = num := Nat.div_add_mod num den
    have parts' : den * (num' / den) + num' % den = num' := Nat.div_add_mod num' den
    have remainders : num % den ≤ num' % den := by
      rw [same] at parts
      omega
    unfold nearestQuotient
    dsimp only
    rw [same]
    split_ifs <;> omega
  · calc nearestQuotient num den ≤ num / den + 1 := nearestQuotient_le_div_succ num den
      _ ≤ num' / den := above
      _ ≤ nearestQuotient num' den := div_le_nearestQuotient num' den

/-- Twice the nearest natural number misses twice the quotient by one at most. -/
theorem nearestQuotient_between (hden : 0 < den) :
    2 * (nearestQuotient num den * den) ≤ 2 * num + den ∧
      2 * num ≤ 2 * (nearestQuotient num den * den) + den := by
  have parts : num / den * den + num % den = num := Nat.div_add_mod' num den
  have inside : num % den < den := Nat.mod_lt num hden
  have next : (num / den + 1) * den = num / den * den + den := Nat.succ_mul _ _
  unfold nearestQuotient
  dsimp only
  split_ifs
  · omega
  · omega
  · rcases Nat.mod_two_eq_zero_or_one (num / den) with even | odd
    · rw [even, Nat.add_zero]
      omega
    · rw [odd]
      omega

theorem abs_nearestQuotient_sub_le (hden : 0 < den) :
    |(nearestQuotient num den : ℚ) - num / den| ≤ 1 / 2 := by
  obtain ⟨above, below⟩ := @nearestQuotient_between num den hden
  have positive : (0 : ℚ) < den := by exact_mod_cast hden
  have above : (2 : ℚ) * (nearestQuotient num den * den) ≤ 2 * num + den := by
    exact_mod_cast above
  have below : (2 : ℚ) * num ≤ 2 * (nearestQuotient num den * den) + den := by
    exact_mod_cast below
  rw [abs_le]
  constructor
  · rw [neg_le_sub_iff_le_add, div_le_iff₀ positive]
    linarith
  · rw [sub_le_iff_le_add, ← sub_le_iff_le_add', le_div_iff₀ positive]
    linarith

/-! ## The scale of a quotient -/

theorem two_pow_toNat (e : Int) : (2 : ℚ) ^ e.toNat = 2 ^ e * 2 ^ (-e).toNat := by
  rw [← zpow_natCast, ← zpow_natCast, ← zpow_add₀ two_ne_zero]
  congr 1
  omega

/-- The exponent of a quotient comes from its binary logarithm. -/
theorem ratioLog_eq_log (hnum : num ≠ 0) (hden : den ≠ 0) :
    ratioLog num den = Int.log 2 ((num : ℚ) / den) := by
  have numPos : (0 : ℚ) < num := by exact_mod_cast Nat.pos_of_ne_zero hnum
  have denPos : (0 : ℚ) < den := by exact_mod_cast Nat.pos_of_ne_zero hden
  have reach : (2 : ℚ) ^ ratioLog num den ≤ num / den := by
    have h : (den : ℚ) * 2 ^ (ratioLog num den).toNat ≤ num * 2 ^ (-ratioLog num den).toNat := by
      exact_mod_cast @ratioLog_le num den hnum
    rw [two_pow_toNat, ← mul_assoc] at h
    rw [le_div_iff₀ denPos, mul_comm]
    exact le_of_mul_le_mul_right h (by positivity)
  have below : (num : ℚ) / den < 2 ^ (ratioLog num den + 1) := by
    have h : (num : ℚ) * 2 ^ (-(ratioLog num den + 1)).toNat <
        den * 2 ^ (ratioLog num den + 1).toNat := by
      exact_mod_cast @lt_ratioLog_succ num den hden
    rw [two_pow_toNat (ratioLog num den + 1), ← mul_assoc] at h
    rw [div_lt_iff₀ denPos, mul_comm]
    exact lt_of_mul_lt_mul_right h (by positivity)
  apply le_antisymm
  · exact (Int.zpow_le_iff_le_log (by decide) (div_pos numPos denPos)).mp (by exact_mod_cast reach)
  · apply Int.le_of_lt_add_one
    exact (Int.lt_zpow_iff_log_lt (by decide) (div_pos numPos denPos)).mp (by exact_mod_cast below)

theorem ratioExponent_mono (hnum : num ≠ 0) (hden : den ≠ 0) (h : num ≤ num') :
    ratioExponent num den ≤ ratioExponent num' den := by
  have numPos : (0 : ℚ) < num := by exact_mod_cast Nat.pos_of_ne_zero hnum
  have denPos : (0 : ℚ) < den := by exact_mod_cast Nat.pos_of_ne_zero hden
  have quotients : (num : ℚ) / den ≤ num' / den :=
    div_le_div_of_nonneg_right (by exact_mod_cast h) (le_of_lt denPos)
  have logs := Int.log_mono_right (b := 2) (div_pos numPos denPos) quotients
  rw [← ratioLog_eq_log hnum hden, ← ratioLog_eq_log (by omega) hden] at logs
  unfold ratioExponent
  omega

/-! ## Rounded quotients -/

theorem RoundsBeyond.mono (h : num ≤ num') (beyond : RoundsBeyond num den) :
    RoundsBeyond num' den :=
  Nat.le_trans beyond (Nat.mul_le_mul_left 2 h)

/-- What a quotient is rounded to, as a rational number. -/
def rounded (num den : Nat) : ℚ :=
  Number.scaled (ratioSignificand num den) (ratioExponent num den)

@[simp] theorem rounded_zero (den : Nat) : rounded 0 den = 0 := by
  simp [rounded, ratioSignificand, nearestQuotient, Number.scaled]

/-- A rounded quotient is at most half a unit of its last bit away from the exact one. -/
theorem abs_rounded_sub_le (hden : den ≠ 0) :
    |rounded num den - num / den| ≤ 2 ^ ratioExponent num den / 2 := by
  rw [rounded, Number.scaled, ratioSignificand]
  generalize ratioExponent num den = e
  have scale : (0 : ℚ) < 2 ^ e := zpow_pos two_pos e
  have denPos : (0 : ℚ) < den := by exact_mod_cast Nat.pos_of_ne_zero hden
  have near := @abs_nearestQuotient_sub_le (num * 2 ^ (-e).toNat) (den * 2 ^ e.toNat)
    (Nat.mul_pos (Nat.pos_of_ne_zero hden) (Nat.two_pow_pos _))
  have shifted : ((num * 2 ^ (-e).toNat : Nat) : ℚ) / (den * 2 ^ e.toNat : Nat) =
      num / den / 2 ^ e := by
    push_cast
    rw [two_pow_toNat e]
    field_simp
  rw [shifted] at near
  generalize nearestQuotient _ _ = q at near
  have split : ((q : Int) : ℚ) * 2 ^ e - num / den = (q - num / den / 2 ^ e) * 2 ^ e := by
    rw [sub_mul, div_mul_cancel₀ _ (ne_of_gt scale), Int.cast_natCast]
  rw [split, abs_mul, abs_of_pos scale]
  calc |(q : ℚ) - num / den / 2 ^ e| * 2 ^ e ≤ 1 / 2 * 2 ^ e :=
        mul_le_mul_of_nonneg_right near (le_of_lt scale)
    _ = 2 ^ e / 2 := by ring

/-- A larger quotient is not rounded to less. -/
theorem rounded_mono (hden : den ≠ 0) (h : num ≤ num') : rounded num den ≤ rounded num' den := by
  by_cases hnum : num = 0
  · rw [hnum, rounded_zero, rounded, Number.scaled]
    positivity
  rw [rounded, rounded, Number.scaled, Number.scaled, Int.cast_natCast, Int.cast_natCast]
  rcases Int.le_iff_eq_or_lt.mp (ratioExponent_mono hnum hden h) with same | above
  · -- At one scale the numerators compare.
    have significands : ratioSignificand num den ≤ ratioSignificand num' den := by
      rw [ratioSignificand, ratioSignificand, same]
      exact nearestQuotient_mono (Nat.mul_le_mul_right _ h)
    rw [same]
    exact mul_le_mul_of_nonneg_right (by exact_mod_cast significands) (by positivity)
  · -- The smaller one stays below a power of two that the larger one reaches.
    have small : (ratioSignificand num den : ℚ) ≤ 2 ^ (53 : Nat) := by
      exact_mod_cast @ratioSignificand_le num den hden
    have least := minExponent_le_ratioExponent num den
    have large : (2 ^ (52 : Nat) : ℚ) ≤ ratioSignificand num' den := by
      exact_mod_cast @le_ratioSignificand num' den (by omega) hden (by omega)
    have step : (2 : ℚ) ^ (ratioExponent num den + 1) ≤ 2 ^ ratioExponent num' den :=
      zpow_le_zpow_right₀ (by norm_num) above
    calc (ratioSignificand num den : ℚ) * 2 ^ ratioExponent num den
        ≤ 2 ^ (53 : Nat) * 2 ^ ratioExponent num den :=
          mul_le_mul_of_nonneg_right small (by positivity)
      _ = 2 ^ (52 : Nat) * 2 ^ (ratioExponent num den + 1) := by
          rw [zpow_add_one₀ two_ne_zero]
          ring
      _ ≤ 2 ^ (52 : Nat) * 2 ^ ratioExponent num' den :=
          mul_le_mul_of_nonneg_left step (by positivity)
      _ ≤ ratioSignificand num' den * 2 ^ ratioExponent num' den :=
          mul_le_mul_of_nonneg_right large (by positivity)

end Double

namespace Number

/-! ## The value of a number -/

/-- The rational number that a number is, if it is finite. -/
def rational? (a : Number) : Option ℚ :=
  match a.extent with
  | .finite significand exponent => some (scaled significand exponent)
  | _ => none

@[simp] theorem rational?_int (n : Int) : (Number.int n).rational? = some (n : ℚ) := by
  simp [rational?, extent, scaled]

theorem rational?_finite {negative : Bool} {m : Nat} {e : Int} (normal : Double.Normal m e) :
    (Number.double (.finite negative m e normal)).rational? =
      some (scaled (Double.signed negative m) e) := rfl

/-- A number that is equal to an integer has its value. -/
theorem rational?_of_toInt? {d : Double} {k : Int} (h : d.toInt? = some k) :
    (Number.double d).rational? = some (k : ℚ) := by
  rcases d with ⟨negative, m, e, normal⟩ | _ | _
  · simp only [Double.toInt?] at h
    split at h
    case isFalse => exact absurd h (by simp)
    case isTrue whole =>
      obtain ⟨q, rfl⟩ := Nat.dvd_of_mod_eq_zero whole
      rw [Nat.mul_div_cancel_left q (Nat.two_pow_pos _)] at h
      rw [rational?_finite, ← Option.some.inj h, Nat.mul_comm, Double.signed_mul, Double.signed_mul,
        scaled]
      push_cast
      rw [Double.two_pow_toNat e]
      congr 1
      ring
  · exact absurd h (by simp [Double.toInt?])
  · exact absurd h (by simp [Double.toInt?])

theorem rational?_ofParts {negative : Bool} {m : Nat} {e : Int}
    {significand_lt : m < 2 ^ (53 : Nat)} {minExponent_le : Double.minExponent ≤ e}
    {leading : e = Double.minExponent ∨ 2 ^ (52 : Nat) ≤ m}
    (le_maxExponent : e ≤ Double.maxExponent) :
    (Number.double (.ofParts negative m e significand_lt minExponent_le leading)).rational? =
      some (scaled (Double.signed negative m) e) := by
  rw [Double.ofParts, dif_pos le_maxExponent, rational?_finite]

/-- Within the range of doubles a quotient is rounded to a finite one. -/
theorem rational?_ofRatio {num den : Nat} (hden : den ≠ 0)
    (within : ¬Double.RoundsBeyond num den) :
    (Number.double (.ofRatio false num den)).rational? = some (Double.rounded num den) := by
  by_cases hnum : num = 0
  · rw [hnum, Double.ofRatio_zero, Double.rounded_zero, Double.zero, rational?_finite]
    simp [scaled]
  · have positive : ¬(num = 0 ∨ den = 0) := by simp [hnum, hden]
    have inRange := Double.ratioExponent_le_maxExponent hnum within
    rw [Double.ofRatio, dif_neg positive]
    dsimp only
    split
    case isTrue carried =>
      -- The significand is one bit too long, so the exponent takes up its last zero.
      have notLast : Double.ratioExponent num den ≠ Double.maxExponent := fun last =>
        absurd carried
          (Nat.ne_of_lt (Double.ratioSignificand_lt_of_maxExponent hden within last))
      rw [rational?_ofParts (by omega), Double.rounded, carried,
        scaled_eq (Int.le_add_one (Int.le_refl (Double.ratioExponent num den))),
        add_sub_cancel_left]
      rfl
    case isFalse => exact rational?_ofParts inRange

end Number

end TicketFlow
