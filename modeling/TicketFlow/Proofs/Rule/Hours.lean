import TicketFlow.Proofs.Number.Nearest
import TicketFlow.Proofs.Rule.Failure

/-!
# Hours as numbers

The hours of a whole number of minutes are its rounded quotient by sixty. So more minutes
never have fewer hours, and a minute has some. A sixtieth is more than half of the last bit
of a double as long as that is at most a thirty-second: up to two to the power of 48 hours
only full hours become whole numbers.
-/

namespace TicketFlow

-- Powers are those of plain numbers, also where monoids have powers.
attribute [local instance (high)] instPowNat

namespace Number

open Double (RoundsBeyond ofRatio rounded)

theorem rational?_ofHours (d : Double) : (ofHours d).rational? = (Number.double d).rational? := by
  rw [ofHours]
  split
  case h_1 n whole => rw [rational?_int, rational?_of_toInt? whole]
  case h_2 => rfl

theorem ofHours_eq_int_iff {d : Double} {k : Int} :
    ofHours d = .int k ↔ d.toInt? = some k := by
  rw [ofHours]
  split
  case h_1 n whole => simp [whole]
  case h_2 none => simp [none]

theorem minutesToHours_of_not_roundsBeyond {n : Nat} (within : ¬RoundsBeyond n 60) :
    (Number.int n).minutesToHours = .ok (ofHours (ofRatio false n 60)) := by
  have positive : ¬(n : Int) < 0 := by omega
  rw [minutesToHours, decide_eq_false positive, Int.natAbs_natCast]
  split
  case h_1 s infinite =>
    exact absurd ((Double.ofRatio_eq_infinite_iff (by decide)).mp infinite).1 within
  case h_2 => rfl

theorem exists_minutesToHours_iff {n : Nat} :
    (∃ b, (Number.int n).minutesToHours = .ok b) ↔ ¬RoundsBeyond n 60 := by
  refine ⟨?_, fun within => ⟨_, minutesToHours_of_not_roundsBeyond within⟩⟩
  rintro ⟨b, hours⟩ beyond
  have failed : (Number.int n).minutesToHours = .error .hoursOutOfRange :=
    minutesToHours_eq_error_iff.mpr ⟨n, rfl, by rwa [Int.natAbs_natCast]⟩
  rw [hours] at failed
  cases failed

/-- A minute is more than no time. -/
theorem rounded_pos {m : Nat} (h : 0 < m) : 0 < rounded m 60 := by
  have significand : 0 < Double.ratioSignificand 1 60 := by decide
  have one : 0 < rounded 1 60 := by
    rw [rounded, scaled]
    exact mul_pos (by exact_mod_cast significand) (zpow_pos two_pos _)
  exact lt_of_lt_of_le one (Double.rounded_mono (by decide) h)

/-- Up to two to the power of 48 hours the last bit of a double is at most a thirty-second. -/
theorem ratioExponent_le_of_lt {m : Nat} (positive : m ≠ 0) (bound : m < 60 * 2 ^ 48) :
    Double.ratioExponent m 60 ≤ -5 := by
  have log : Double.ratioLog m 60 < 48 := by
    by_contra large
    have reach := @Double.ratioLog_le m 60 positive
    generalize Double.ratioLog m 60 = l at large reach
    have noFraction : (-l).toNat = 0 := by omega
    have power : 2 ^ 48 ≤ 2 ^ l.toNat := Nat.pow_le_pow_right (by decide) (by omega)
    rw [noFraction, Nat.pow_zero, Nat.mul_one] at reach
    omega
  rw [Double.ratioExponent, Double.minExponent]
  omega

/-- No quotient by sixty is rounded to a whole number there unless it is one. -/
theorem eq_mul_of_rounded_eq {m : Nat} {k : Int} (positive : m ≠ 0) (bound : m < 60 * 2 ^ 48)
    (whole : rounded m 60 = k) : (m : Int) = 60 * k := by
  have near := @Double.abs_rounded_sub_le m 60 (by decide)
  have unit : (2 : ℚ) ^ Double.ratioExponent m 60 ≤ 2 ^ (-5 : Int) :=
    zpow_le_zpow_right₀ (by norm_num) (ratioExponent_le_of_lt positive bound)
  have distance : |(60 * k - m : ℚ)| < 1 := by
    have scaled : (60 * k - m : ℚ) = 60 * (rounded m 60 - m / (60 : Nat)) := by
      rw [whole]
      push_cast
      ring
    rw [scaled, abs_mul]
    norm_num at unit ⊢
    linarith
  have apart : |60 * k - (m : Int)| < 1 := by exact_mod_cast distance
  rw [Int.abs_lt_one_iff] at apart
  omega

/-- There only full hours become whole numbers. -/
theorem minutesToHours_of_lt {m : Nat} (bound : m < 60 * 2 ^ 48) :
    ∃ a, (Number.int m).minutesToHours = .ok a ∧ ((∃ k, a = .int k) ↔ 60 ∣ m) ∧
      (60 ∣ m → a = .int (m / 60 : Nat)) := by
  have small : 2 ^ (48 : Nat) ≤ Double.largest :=
    Nat.le_trans (by decide : 2 ^ (48 : Nat) ≤ 2 ^ (53 : Nat) - 1)
      (Nat.le_mul_of_pos_right _ (Nat.two_pow_pos _))
  have below : m ≤ 2 ^ (48 : Nat) * 60 := by omega
  have within : ¬RoundsBeyond m 60 :=
    mt (RoundsBeyond.mono below) (Double.not_roundsBeyond (by decide) (by omega))
  refine ⟨_, minutesToHours_of_not_roundsBeyond within, ?_⟩
  have exact : 60 ∣ m → ofHours (ofRatio false m 60) = .int (m / 60 : Nat) := by
    rintro ⟨k, rfl⟩
    rw [ofHours_eq_int_iff, Nat.mul_div_cancel_left k (by decide)]
    by_cases zero : k = 0
    · simp [zero]
    · rw [Nat.mul_comm]
      exact Double.toInt?_ofRatio_of_le false zero (by decide) (by omega)
  refine ⟨⟨?_, fun full => ⟨_, exact full⟩⟩, exact⟩
  rintro ⟨k, whole⟩
  by_cases positive : m = 0
  · exact ⟨0, positive⟩
  · have value := rational?_ofRatio (by decide : 60 ≠ 0) within
    rw [rational?_of_toInt? (ofHours_eq_int_iff.mp whole), Option.some.injEq] at value
    have multiple := eq_mul_of_rounded_eq positive bound value.symm
    omega

/-- More minutes never have fewer hours, and there is more than no time in a minute. -/
theorem minutesToHours_mono {m n : Nat} (h : m ≤ n) {b : Number}
    (hours : (Number.int n).minutesToHours = .ok b) :
    ∃ a p q, (Number.int m).minutesToHours = .ok a ∧ a.rational? = some p ∧
      b.rational? = some q ∧ p ≤ q ∧ (0 < m → 0 < p) := by
  have within : ¬RoundsBeyond n 60 := exists_minutesToHours_iff.mp ⟨b, hours⟩
  have within' : ¬RoundsBeyond m 60 := mt (RoundsBeyond.mono h) within
  rw [minutesToHours_of_not_roundsBeyond within, Except.ok.injEq] at hours
  refine ⟨_, rounded m 60, rounded n 60, minutesToHours_of_not_roundsBeyond within', ?_, ?_,
    Double.rounded_mono (by decide) h, rounded_pos⟩
  · rw [rational?_ofHours, rational?_ofRatio (by decide) within']
  · rw [← hours, rational?_ofHours, rational?_ofRatio (by decide) within]

/-- Whole numbers of minutes have hours unless their quotient by sixty is rounded beyond the
largest double. As exact rational numbers the hours keep the order of the minutes and are
positive for a positive number of minutes. For less than `60 * 2 ^ 48` minutes they are a
whole number exactly when sixty divides the minutes, and then the exact quotient. The bound
is sharp: one minute more than `2 ^ 48` hours is rounded to these. -/
theorem hours_of_whole_minutes :
    (∀ n : Nat, (∃ b, (Number.int n).minutesToHours = .ok b) ↔ ¬RoundsBeyond n 60) ∧
    (∀ m n : Nat, m ≤ n → ∀ b, (Number.int n).minutesToHours = .ok b →
      ∃ a p q, (Number.int m).minutesToHours = .ok a ∧ a.rational? = some p ∧
        b.rational? = some q ∧ p ≤ q ∧ (0 < m → 0 < p)) ∧
    (∀ m : Nat, m < 60 * 2 ^ 48 → ∃ a, (Number.int m).minutesToHours = .ok a ∧
      ((∃ k, a = .int k) ↔ 60 ∣ m) ∧ (60 ∣ m → a = .int (m / 60 : Nat))) ∧
    (Number.int (60 * 2 ^ 48 + 1)).minutesToHours = .ok (.int (2 ^ 48)) := by
  refine ⟨fun _ => exists_minutesToHours_iff, fun _ _ h _ hours => minutesToHours_mono h hours,
    fun _ bound => minutesToHours_of_lt bound, ?sharp⟩
  case sharp => decide

/-- One minute less than `2 ^ 48` hours is no whole number of hours, and one minute more is
rounded to one; the order is kept. -/
theorem hours_beside_two_pow_48 :
    60 * 2 ^ 48 - 1 ≤ 60 * 2 ^ 48 + 1 ∧ 60 * 2 ^ 48 - 1 < 60 * 2 ^ 48 ∧
      ∃ a p q, (Number.int (60 * 2 ^ 48 - 1)).minutesToHours = .ok a ∧ (¬∃ k, a = .int k) ∧
        (Number.int (60 * 2 ^ 48 + 1)).minutesToHours = .ok (.int (2 ^ 48)) ∧
        a.rational? = some p ∧ (Number.int (2 ^ 48)).rational? = some q ∧ p ≤ q ∧ 0 < p := by
  have order : 60 * 2 ^ 48 - 1 ≤ 60 * 2 ^ 48 + 1 := by decide
  have bound : 60 * 2 ^ 48 - 1 < 60 * 2 ^ 48 := by decide
  obtain ⟨-, mono, whole, sharp⟩ := hours_of_whole_minutes
  obtain ⟨a, p, q, hours, value, value', le, positive⟩ := mono _ _ order _ sharp
  obtain ⟨a', hours', full, -⟩ := whole _ bound
  have same : a' = a := Except.ok.inj (hours'.symm.trans hours)
  refine ⟨order, bound, a, p, q, hours, ?_, sharp, value, value', le, positive (by decide)⟩
  rw [← same, full]
  decide

end Number

end TicketFlow
