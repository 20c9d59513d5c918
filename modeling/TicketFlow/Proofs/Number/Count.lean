import Mathlib
import TicketFlow.Number.Basic
import TicketFlow.Proofs.Number.Range

/-!
# Counting up

A count is a whole number of either kind that is not negative. The successor of a
count is one: rounding keeps a whole number whole, also where neighbouring doubles
are far apart, and the successor of the largest double is rounded back to it. Below
two to the power of 53 the successor is exact.
-/

namespace TicketFlow

-- Powers are those of plain numbers, also where monoids have powers.
attribute [local instance (high)] instPowNat

namespace Double

variable {n den : Nat}

/-- The successor of the largest double is rounded back to it. -/
theorem not_roundsBeyond (hden : den ≠ 0) (bound : n ≤ largest + 1) :
    ¬RoundsBeyond (n * den) den := by
  have wide := two_lt_two_pow_maxExponent
  have inside : 2 * n < 2 * largest + 2 ^ maxExponent.toNat := by omega
  rw [RoundsBeyond, ← Nat.mul_assoc]
  exact Nat.not_le.mpr (Nat.mul_lt_mul_of_pos_right inside (Nat.pos_of_ne_zero hden))

theorem ratioExponent_le (hn : n ≠ 0) (hden : den ≠ 0) (bound : n ≤ largest + 1) :
    ratioExponent (n * den) den ≤ maxExponent :=
  ratioExponent_le_maxExponent (Nat.mul_ne_zero hn hden) (not_roundsBeyond hden bound)

/-- A whole number with an exponent up to zero is not rounded. -/
theorem ratioSignificand_of_exponent_le_zero (hden : den ≠ 0)
    (h : ratioExponent (n * den) den ≤ 0) :
    ratioSignificand (n * den) den = n * 2 ^ (-ratioExponent (n * den) den).toNat := by
  unfold ratioSignificand
  dsimp only
  generalize ratioExponent (n * den) den = e at h
  have noPower : e.toNat = 0 := by omega
  rw [noPower, Nat.pow_zero, Nat.mul_one, Nat.mul_right_comm]
  exact nearestQuotient_mul (Nat.pos_of_ne_zero hden)

theorem toInt?_ofParts {negative : Bool} {m : Nat} {e : Int} {significand_lt : m < 2 ^ (53 : Nat)}
    {minExponent_le : minExponent ≤ e} {leading : e = minExponent ∨ 2 ^ (52 : Nat) ≤ m}
    (le_maxExponent : e ≤ maxExponent) (whole : 2 ^ (-e).toNat ∣ m) :
    (ofParts negative m e significand_lt minExponent_le leading).toInt? =
      some (signed negative (m / 2 ^ (-e).toNat * 2 ^ e.toNat)) := by
  simp [ofParts, le_maxExponent, toInt?, Nat.mod_eq_zero_of_dvd whole]

/-- A whole number in the range of the format is rounded to a whole number. -/
theorem toInt?_ofRatio (hn : n ≠ 0) (hden : den ≠ 0) (bound : n ≤ largest + 1) :
    ∃ k : Nat, (ofRatio false (n * den) den).toInt? = some (k : Int) := by
  have inRange := ratioExponent_le hn hden bound
  have positive : ¬(n * den = 0 ∨ den = 0) := by simp [hn, hden]
  rw [ofRatio, dif_neg positive]
  dsimp only
  split
  case isTrue carried =>
    have notLast : ratioExponent (n * den) den ≠ maxExponent := fun h =>
      absurd carried (Nat.ne_of_lt
        (ratioSignificand_lt_of_maxExponent hden (not_roundsBeyond hden bound) h))
    refine ⟨_, toInt?_ofParts (by omega) ?_⟩
    by_cases h : ratioExponent (n * den) den ≤ 0
    · rw [ratioSignificand_of_exponent_le_zero hden h] at carried
      have shift : 2 ^ (-ratioExponent (n * den) den).toNat ≤ 2 ^ (53 : Nat) :=
        carried ▸ Nat.le_mul_of_pos_left _ (Nat.pos_of_ne_zero hn)
      have bits := (Nat.pow_le_pow_iff_right (by decide)).mp shift
      exact Nat.pow_dvd_pow 2 (by omega)
    · have noFraction : (-(ratioExponent (n * den) den + 1)).toNat = 0 := by omega
      rw [noFraction]
      exact Nat.one_dvd _
  case isFalse =>
    refine ⟨_, toInt?_ofParts inRange ?_⟩
    by_cases h : ratioExponent (n * den) den ≤ 0
    · rw [ratioSignificand_of_exponent_le_zero hden h]
      exact Nat.dvd_mul_left _ _
    · have noFraction : (-ratioExponent (n * den) den).toNat = 0 := by omega
      rw [noFraction]
      exact Nat.one_dvd _

theorem signed_mul (negative : Bool) (m k : Nat) :
    signed negative (m * k) = signed negative m * k := by
  cases negative <;> simp [signed]

@[simp] theorem signed_false (m : Nat) : signed false m = m := rfl

@[simp] theorem natAbs_signed (negative : Bool) (m : Nat) : (signed negative m).natAbs = m := by
  cases negative <;> simp [signed]

/-- An integer is its sign and its size. -/
theorem signed_natAbs (k : Int) : signed (decide (k < 0)) k.natAbs = k := by
  by_cases below : k < 0
  · rw [decide_eq_true below, signed, if_pos rfl]
    omega
  · rw [decide_eq_false below, signed_false]
    omega

@[simp] theorem toInt?_zero (negative : Bool) : (zero negative).toInt? = some 0 := by
  cases negative <;> simp [zero, toInt?, signed]

theorem signed_neg_iff {negative : Bool} {m : Nat} :
    signed negative m < 0 ↔ negative = true ∧ 0 < m := by
  cases negative with
  | false => simp
  | true => simp [signed, Nat.pos_iff_ne_zero]

theorem ofInt_one : ∃ normal, ofInt 1 = .finite false (2 ^ (52 : Nat)) (-52) normal :=
  ⟨⟨by decide, by decide, by decide, .inr (by decide)⟩, by decide⟩

/-- A whole double in normal form does not exceed the largest one. -/
theorem le_largest {m : Nat} {e : Int} (normal : Normal m e) (den : Nat) :
    m / den * 2 ^ e.toNat ≤ largest := by
  have significand := normal.significand_lt
  have exponent := normal.le_maxExponent
  refine Nat.mul_le_mul ?_ (Nat.pow_le_pow_right (by decide) (by omega))
  exact Nat.le_trans (Nat.div_le_self m den) (by omega)

/-- The exact sum of a whole double and one is a whole number at a common scale. -/
theorem total_add_one {negative : Bool} {m : Nat} {e k : Int}
    (whole : 2 ^ (-e).toNat ∣ m)
    (value : signed negative (m / 2 ^ (-e).toNat * 2 ^ e.toNat) = k) :
    signed negative m * 2 ^ (e - min e (-52)).toNat +
        signed false (2 ^ (52 : Nat)) * 2 ^ (-52 - min e (-52)).toNat =
      (k + 1) * (2 ^ (-min e (-52)).toNat : Nat) := by
  generalize hlow : min e (-52) = low
  obtain ⟨q, rfl⟩ := whole
  rw [Nat.mul_div_cancel_left q (Nat.two_pow_pos _)] at value
  have scale : 2 ^ (-e).toNat * q * 2 ^ (e - low).toNat = q * 2 ^ e.toNat * 2 ^ (-low).toNat := by
    rw [Nat.mul_comm _ q, Nat.mul_assoc, Nat.mul_assoc, ← Nat.pow_add, ← Nat.pow_add,
      show (-e).toNat + (e - low).toNat = e.toNat + (-low).toNat by omega]
  have one : 2 ^ (52 : Nat) * 2 ^ (-52 - low).toNat = 2 ^ (-low).toNat := by
    rw [← Nat.pow_add, show 52 + (-52 - low).toNat = (-low).toNat by omega]
  have first : signed negative (2 ^ (-e).toNat * q) * 2 ^ (e - low).toNat =
      k * 2 ^ (-low).toNat := by
    have scaled := congrArg (signed negative) scale
    rw [signed_mul negative (_ * q), signed_mul negative (q * _), value] at scaled
    exact_mod_cast scaled
  have second : signed false (2 ^ (52 : Nat)) * 2 ^ (-52 - low).toNat = 2 ^ (-low).toNat := by
    rw [signed_false]
    exact_mod_cast one
  rw [first, second]
  push_cast
  ring

/-- A whole double and one add up to a whole number that is rounded. -/
theorem add_one_eq {d : Double} {k : Int} (h : d.toInt? = some k) : k.natAbs ≤ largest ∧
    ∃ c, d.add (ofInt 1) = ofRatio (decide (k + 1 < 0)) ((k + 1).natAbs * 2 ^ c) (2 ^ c) := by
  obtain ⟨normalOne, one⟩ := ofInt_one
  rcases d with ⟨negative, m, e, normal⟩ | _ | _
  · simp only [toInt?] at h
    split at h
    case isFalse => exact absurd h (by simp)
    case isTrue whole =>
      have whole := Nat.dvd_of_mod_eq_zero whole
      have value := Option.some.inj h
      have size := congrArg Int.natAbs value
      rw [natAbs_signed] at size
      refine ⟨size ▸ le_largest normal _, (-min e (-52)).toNat, ?_⟩
      have scale : (0 : Int) < (2 ^ (-min e (-52)).toNat : Nat) := by
        exact_mod_cast Nat.two_pow_pos _
      rw [one]
      unfold add
      dsimp only
      rw [total_add_one whole value]
      by_cases cancels : k + 1 = 0
      · rw [cancels, Int.zero_mul, if_pos rfl, Int.natAbs_zero, Nat.zero_mul, ofRatio_zero,
          Bool.and_false, decide_eq_false (by omega)]
      · have noPower : (min e (-52)).toNat = 0 := by omega
        have sign : (k + 1) * (2 ^ (-min e (-52)).toNat : Nat) < 0 ↔ k + 1 < 0 :=
          ⟨fun below => neg_of_mul_neg_left below (Int.le_of_lt scale),
            fun below => Int.mul_neg_of_neg_of_pos below scale⟩
        rw [if_neg (Int.mul_ne_zero cancels (Int.ne_of_gt scale)), ofScaled, noPower, Nat.pow_zero,
          Nat.mul_one, Int.natAbs_mul, Int.natAbs_natCast, decide_eq_decide.mpr sign]
  · exact absurd h (by simp [toInt?])
  · exact absurd h (by simp [toInt?])

/-- The successor of a count is a count. -/
theorem toInt?_add_one {d : Double} {k : Nat} (h : d.toInt? = some (k : Int)) :
    ∃ k' : Nat, (d.add (ofInt 1)).toInt? = some (k' : Int) := by
  obtain ⟨bound, c, sum⟩ := add_one_eq h
  have notBelow : ¬(k : Int) + 1 < 0 := by omega
  rw [sum, decide_eq_false notBelow]
  rw [Int.natAbs_natCast] at bound
  exact toInt?_ofRatio (by omega) (Nat.two_pow_pos c).ne' (by omega)

/-! ### Exact successors -/

/-- A whole number up to two to the power of 53 is a multiple of what its last bit stands
for. -/
theorem two_pow_ratioExponent_dvd (hn : n ≠ 0) (hden : den ≠ 0) (bound : n ≤ 2 ^ (53 : Nat)) :
    2 ^ (ratioExponent (n * den) den).toNat ∣ n := by
  have reach := @ratioLog_le _ den (Nat.mul_ne_zero hn hden)
  rw [ratioExponent, minExponent]
  generalize ratioLog (n * den) den = l at reach
  by_cases small : l ≤ 52
  · have noPower : (max (l - 52) (-1074)).toNat = 0 := by omega
    rw [noPower]
    exact Nat.one_dvd n
  · have noFraction : (-l).toNat = 0 := by omega
    rw [noFraction, Nat.pow_zero, Nat.mul_one, Nat.mul_comm n] at reach
    have power : 2 ^ l.toNat ≤ n := Nat.le_of_mul_le_mul_left reach (Nat.pos_of_ne_zero hden)
    have bits : l.toNat ≤ 53 :=
      (Nat.pow_le_pow_iff_right (by decide)).mp (Nat.le_trans power bound)
    have last : l = 53 := by omega
    subst last
    have same : n = 2 ^ (53 : Nat) := Nat.le_antisymm bound power
    rw [same]
    exact Nat.pow_dvd_pow 2 (by decide)

/-- A multiple of what its last bit stands for is not rounded. -/
theorem ratioSignificand_of_dvd (hden : den ≠ 0)
    (h : 2 ^ (ratioExponent (n * den) den).toNat ∣ n) :
    ratioSignificand (n * den) den = n / 2 ^ (ratioExponent (n * den) den).toNat *
      2 ^ (-ratioExponent (n * den) den).toNat := by
  unfold ratioSignificand
  dsimp only
  generalize ratioExponent (n * den) den = e at h
  obtain ⟨q, rfl⟩ := h
  have regrouped : 2 ^ e.toNat * q * den * 2 ^ (-e).toNat =
      q * 2 ^ (-e).toNat * (den * 2 ^ e.toNat) := by ring
  rw [Nat.mul_div_cancel_left q (Nat.two_pow_pos _), regrouped]
  exact nearestQuotient_mul (Nat.mul_pos (Nat.pos_of_ne_zero hden) (Nat.two_pow_pos _))

/-- Whole numbers up to two to the power of 53 are doubles. -/
theorem toInt?_ofRatio_of_le (negative : Bool) (hn : n ≠ 0) (hden : den ≠ 0)
    (bound : n ≤ 2 ^ (53 : Nat)) :
    (ofRatio negative (n * den) den).toInt? = some (signed negative n) := by
  have positive : ¬(n * den = 0 ∨ den = 0) := by simp [hn, hden]
  have whole := two_pow_ratioExponent_dvd hn hden bound
  have exact_significand := ratioSignificand_of_dvd hden whole
  have inRange : ratioExponent (n * den) den ≤ maxExponent := by
    apply ratioExponent_le hn hden
    have wide : (2 ^ (53 : Nat) - 1) * 2 ≤ largest :=
      Nat.mul_le_mul_left _ (Nat.le_of_lt two_lt_two_pow_maxExponent)
    omega
  have notCarried : ratioSignificand (n * den) den ≠ 2 ^ (53 : Nat) := by
    have reach := ratioLog_le_ratioExponent (n * den) den
    have below := lt_scaled (c := 53) (e := ratioExponent (n * den) den) (by omega)
      (@lt_ratioLog_succ (n * den) _ hden)
    intro carried
    rw [← carried, exact_significand] at below
    generalize ratioExponent (n * den) den = e at whole below
    obtain ⟨q, rfl⟩ := whole
    rw [Nat.mul_div_cancel_left q (Nat.two_pow_pos _)] at below
    exact absurd below (Nat.not_lt.mpr (Nat.le_of_eq (by ring)))
  rw [ofRatio, dif_neg positive]
  dsimp only
  rw [dif_neg notCarried, toInt?_ofParts inRange (exact_significand ▸ Nat.dvd_mul_left _ _),
    exact_significand, Nat.mul_div_cancel _ (Nat.two_pow_pos _), Nat.div_mul_cancel whole]

/-- Up to two to the power of 53 one can count with doubles. -/
theorem toInt?_add_one_of_lt {d : Double} {k : Int} (h : d.toInt? = some k)
    (above : -2 ^ (53 : Nat) ≤ k) (below : k < 2 ^ (53 : Nat)) :
    (d.add (ofInt 1)).toInt? = some (k + 1) := by
  obtain ⟨-, c, sum⟩ := add_one_eq h
  rw [sum]
  by_cases zero : k + 1 = 0
  · rw [zero, Int.natAbs_zero, Nat.zero_mul, ofRatio_zero, toInt?_zero]
  · rw [toInt?_ofRatio_of_le _ (Int.natAbs_ne_zero.mpr zero) (Nat.two_pow_pos c).ne' (by omega),
      signed_natAbs]

end Double

namespace Number

/-- A whole number of either kind that is not negative. -/
def IsCount (a : Number) : Prop :=
  ∃ k : Nat, a.toInt? = some (k : Int)

theorem isCount_int {n : Int} (h : 0 ≤ n) : (Number.int n).IsCount :=
  ⟨n.toNat, by simp [h]⟩

theorem isCount_addInt_one {a : Number} (h : a.IsCount) : (a.addInt 1).IsCount := by
  obtain ⟨k, h⟩ := h
  cases a with
  | int n =>
      have value : n = k := Option.some.inj h
      exact isCount_int (by omega)
  | double d => exact Double.toInt?_add_one h

/-- Adding one to a whole number is exact in the range in which doubles count. -/
theorem toInt?_addInt_one {a : Number} {k : Int} (value : a.toInt? = some k)
    (above : -2 ^ (53 : Nat) ≤ k) (below : k < 2 ^ (53 : Nat)) :
    (a.addInt 1).toInt? = some (k + 1) := by
  cases a with
  | int n =>
      cases value
      rfl
  | double d => exact Double.toInt?_add_one_of_lt value above below

theorem lt_zero_double {negative : Bool} {m : Nat} {e : Int} {normal : Double.Normal m e} :
    (Number.double (.finite negative m e normal)).lt 0 = decide (Double.signed negative m < 0) := by
  change decide (Double.signed negative m * 2 ^ (e - min e 0).toNat <
    0 * 2 ^ (0 - min e 0).toNat) = _
  have scale : (0 : Int) < 2 ^ (e - min e 0).toNat := Int.pow_pos (by decide)
  rw [Int.zero_mul, decide_eq_decide]
  constructor
  · exact fun h => neg_of_mul_neg_left h (Int.le_of_lt scale)
  · exact fun h => Int.mul_neg_of_neg_of_pos h scale

/-- A count is a number that is whole and not below zero. -/
theorem isCount_iff {a : Number} : a.IsCount ↔ a.isIntegral = true ∧ a.lt 0 = false := by
  cases a with
  | int n =>
      have order := lt_int n 0
      change (Number.int n).lt 0 = _ at order
      constructor
      · rintro ⟨k, h⟩
        have value : n = k := Option.some.inj h
        exact ⟨rfl, by rw [order]; exact decide_eq_false (by omega)⟩
      · rintro ⟨-, h⟩
        rw [order, decide_eq_false_iff_not] at h
        exact isCount_int (by omega)
  | double d =>
      rcases d with ⟨negative, m, e, normal⟩ | _ | _
      · rw [lt_zero_double, decide_eq_false_iff_not, IsCount, isIntegral]
        simp only [toInt?, Double.toInt?]
        split
        case isFalse => simp
        case isTrue whole =>
          obtain ⟨q, rfl⟩ := Nat.dvd_of_mod_eq_zero whole
          rw [Nat.mul_div_cancel_left q (Nat.two_pow_pos _)]
          constructor
          · rintro ⟨k, value⟩
            refine ⟨rfl, fun below => ?_⟩
            obtain ⟨isNegative, positive⟩ := Double.signed_neg_iff.mp below
            have below' : Double.signed negative (q * 2 ^ e.toNat) < 0 :=
              Double.signed_neg_iff.mpr ⟨isNegative,
                Nat.mul_pos (Nat.pos_of_mul_pos_left positive) (Nat.two_pow_pos _)⟩
            rw [Option.some.inj value] at below'
            omega
          · rintro ⟨-, notBelow⟩
            refine ⟨(Double.signed negative (q * 2 ^ e.toNat)).toNat, ?_⟩
            rw [Int.toNat_of_nonneg (Int.not_lt.mp fun below => notBelow ?_)]
            obtain ⟨isNegative, positive⟩ := Double.signed_neg_iff.mp below
            exact Double.signed_neg_iff.mpr ⟨isNegative,
              Nat.mul_pos (Nat.two_pow_pos _) (Nat.pos_of_mul_pos_right positive)⟩
      · simp [IsCount, isIntegral, toInt?, Double.toInt?]
      · simp [IsCount, isIntegral, toInt?, Double.toInt?]

end Number

end TicketFlow
