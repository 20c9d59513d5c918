import TicketFlow.Number.Double

/-!
# The range of doubles

A quotient has no finite double near it exactly when it lies at least half way from the
largest one to where the next one would be: the significand of the largest is odd, so the
half goes upwards.
-/

namespace TicketFlow

-- Powers are those of plain numbers, also where monoids have powers.
attribute [local instance (high)] instPowNat

namespace Double

variable {num den : Nat}

/-- The largest finite double. -/
def largest : Nat :=
  (2 ^ (53 : Nat) - 1) * 2 ^ maxExponent.toNat

/-- A quotient is rounded beyond the largest finite double: it reaches the middle between
that and the next multiple of its last bit. -/
def RoundsBeyond (num den : Nat) : Prop :=
  (2 * largest + 2 ^ maxExponent.toNat) * den ≤ 2 * num

instance : Decidable (RoundsBeyond num den) :=
  inferInstanceAs (Decidable (_ ≤ _))

theorem two_pow_mul_le {a b c : Nat} (h : a + b ≤ c) : 2 ^ a * 2 ^ b ≤ 2 ^ c := by
  rw [← Nat.pow_add]
  exact Nat.pow_le_pow_right (by decide) h

theorem two_lt_two_pow_maxExponent : 2 < 2 ^ maxExponent.toNat := by
  have smaller : 2 ^ (2 : Nat) ≤ 2 ^ maxExponent.toNat :=
    Nat.pow_le_pow_right (by decide) (by decide)
  omega

theorem toNat_neg_maxExponent : (-maxExponent).toNat = 0 := by decide

/-- The middle behind the largest finite double, in multiples of the last bit of that. -/
theorem middle_mul (den : Nat) : (2 * largest + 2 ^ maxExponent.toNat) * den =
    2 * ((2 ^ (53 : Nat) - 1) * (den * 2 ^ maxExponent.toNat)) + den * 2 ^ maxExponent.toNat := by
  rw [largest, Nat.add_mul, Nat.mul_assoc, Nat.mul_assoc, Nat.mul_comm _ den]

/-! ## Quotients within the range -/

/-- What is not rounded beyond the range has an exponent of the format. -/
theorem ratioExponent_le_maxExponent (hnum : num ≠ 0)
    (within : ¬RoundsBeyond num den) : ratioExponent num den ≤ maxExponent := by
  have log : ratioLog num den ≤ maxExponent + 52 := by
    apply Decidable.byContradiction
    intro large
    apply within
    have reach := @ratioLog_le _ den hnum
    generalize ratioLog num den = l at large reach
    have noFraction : (-l).toNat = 0 := by
      rw [maxExponent] at large
      omega
    have beyond : 2 ^ (53 : Nat) * 2 ^ maxExponent.toNat ≤ 2 ^ l.toNat := by
      apply two_pow_mul_le
      rw [maxExponent] at large ⊢
      omega
    rw [noFraction, Nat.pow_zero, Nat.mul_one] at reach
    have scaled := Nat.mul_le_mul_left den beyond
    rw [Nat.mul_left_comm] at scaled
    rw [RoundsBeyond, middle_mul]
    omega
  rw [ratioExponent, minExponent]
  rw [maxExponent] at log ⊢
  omega

/-- At the last exponent it is not rounded up to the next power of two. -/
theorem ratioSignificand_lt_of_maxExponent (hden : den ≠ 0) (within : ¬RoundsBeyond num den)
    (last : ratioExponent num den = maxExponent) : ratioSignificand num den < 2 ^ (53 : Nat) := by
  refine Nat.lt_of_le_pred (Nat.two_pow_pos 53) ?_
  unfold ratioSignificand
  dsimp only
  rw [last, toNat_neg_maxExponent, Nat.pow_zero, Nat.mul_one]
  apply nearestQuotient_le (Nat.mul_pos (Nat.pos_of_ne_zero hden) (Nat.two_pow_pos _))
  rw [Nat.pred_eq_sub_one, ← middle_mul]
  exact Nat.lt_of_not_le within

/-! ## Quotients beyond the range -/

/-- From the middle behind an odd number one is rounded up. -/
theorem succ_le_nearestQuotient {c : Nat} (hden : 0 < den) (odd : c % 2 = 1)
    (h : 2 * (c * den) + den ≤ 2 * num) : c + 1 ≤ nearestQuotient num den := by
  have reach : c ≤ num / den := (Nat.le_div_iff_mul_le hden).mpr (by omega)
  rcases Nat.eq_or_lt_of_le reach with same | above
  · have split_num : den * (num / den) + num % den = num := Nat.div_add_mod num den
    have half : den ≤ 2 * (num % den) := by
      rw [← same, Nat.mul_comm] at split_num
      omega
    unfold nearestQuotient
    dsimp only
    rw [if_neg (Nat.not_lt.mpr half), ← same, odd]
    split <;> exact Nat.le_refl _
  · exact Nat.le_trans above (div_le_nearestQuotient num den)

/-- What is rounded beyond the range has at least the last exponent of the format. -/
theorem maxExponent_le_ratioExponent (hden : den ≠ 0) (beyond : RoundsBeyond num den) :
    maxExponent ≤ ratioExponent num den := by
  have log : maxExponent + 52 ≤ ratioLog num den := by
    apply Decidable.byContradiction
    intro small
    have below : num * 2 ^ (-maxExponent).toNat <
        2 ^ (52 : Nat) * (den * 2 ^ maxExponent.toNat) :=
      lt_scaled (by omega) (lt_ratioLog_succ hden)
    rw [toNat_neg_maxExponent, Nat.pow_zero, Nat.mul_one] at below
    rw [RoundsBeyond, middle_mul] at beyond
    omega
  have exponent := ratioLog_le_ratioExponent num den
  omega

theorem ratioSignificand_of_maxExponent (hden : den ≠ 0) (beyond : RoundsBeyond num den)
    (last : ratioExponent num den = maxExponent) : ratioSignificand num den = 2 ^ (53 : Nat) := by
  apply Nat.le_antisymm (ratioSignificand_le hden)
  unfold ratioSignificand
  dsimp only
  rw [last, toNat_neg_maxExponent, Nat.pow_zero, Nat.mul_one]
  apply succ_le_nearestQuotient (c := 2 ^ (53 : Nat) - 1)
    (Nat.mul_pos (Nat.pos_of_ne_zero hden) (Nat.two_pow_pos _)) (by decide)
  rw [← middle_mul]
  exact beyond

/-! ## Infinities -/

theorem ofParts_eq_infinite_iff {negative s : Bool} {m : Nat} {e : Int}
    {significand_lt : m < 2 ^ (53 : Nat)} {minExponent_le : minExponent ≤ e}
    {leading : e = minExponent ∨ 2 ^ (52 : Nat) ≤ m} :
    ofParts negative m e significand_lt minExponent_le leading = .infinite s ↔
      maxExponent < e ∧ negative = s := by
  rw [ofParts]
  split
  case isTrue within =>
    have notBeyond : ¬maxExponent < e := by omega
    simp [notBeyond]
  case isFalse beyond =>
    have isBeyond : maxExponent < e := by omega
    simp [isBeyond]

/-- A quotient is rounded to an infinity exactly when it is rounded beyond the largest finite
double. -/
theorem ofRatio_eq_infinite_iff {negative s : Bool} (hden : den ≠ 0) :
    ofRatio negative num den = .infinite s ↔ RoundsBeyond num den ∧ negative = s := by
  by_cases hnum : num = 0
  case pos =>
    have within : ¬RoundsBeyond 0 den := by
      intro beyond
      have wide := two_lt_two_pow_maxExponent
      have positive : 0 < (2 * largest + 2 ^ maxExponent.toNat) * den :=
        Nat.mul_pos (by omega) (Nat.pos_of_ne_zero hden)
      exact absurd beyond (Nat.not_le.mpr positive)
    simp [hnum, zero, within]
  case neg =>
    have positive : ¬(num = 0 ∨ den = 0) := by simp [hnum, hden]
    rw [ofRatio, dif_neg positive]
    dsimp only
    by_cases beyond : RoundsBeyond num den
    case pos =>
      have least := maxExponent_le_ratioExponent hden beyond
      split
      case isTrue =>
        rw [ofParts_eq_infinite_iff]
        simp [beyond, Int.lt_add_one_of_le least]
      case isFalse notCarried =>
        have other : ratioExponent num den ≠ maxExponent := fun last =>
          notCarried (ratioSignificand_of_maxExponent hden beyond last)
        have strict : maxExponent < ratioExponent num den := by omega
        rw [ofParts_eq_infinite_iff]
        simp [beyond, strict]
    case neg =>
      have most := ratioExponent_le_maxExponent hnum beyond
      split
      case isTrue carried =>
        have other : ratioExponent num den ≠ maxExponent := fun last =>
          absurd carried (Nat.ne_of_lt (ratioSignificand_lt_of_maxExponent hden beyond last))
        have inside : ¬maxExponent < ratioExponent num den + 1 := by omega
        rw [ofParts_eq_infinite_iff]
        simp [beyond, inside]
      case isFalse =>
        rw [ofParts_eq_infinite_iff]
        simp [beyond, Int.not_lt.mpr most]

end Double

end TicketFlow
