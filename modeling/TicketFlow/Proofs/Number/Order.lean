import Mathlib
import TicketFlow.Number.Basic

/-!
# The order of numbers

A number other than `nan` has a place on the line of the rational numbers with an end on
each side, and to compare numbers exactly is to compare their places. Whole numbers and
doubles lie on the same line.
-/

namespace TicketFlow

-- Powers are those of plain numbers, also where monoids have powers.
attribute [local instance (high)] instPowNat

namespace Number

/-- The exact value of a significand at an exponent. -/
def scaled (significand exponent : Int) : ℚ :=
  significand * (2 : ℚ) ^ exponent

/-- At a smaller exponent the significand is larger by as many binary digits. -/
theorem scaled_eq {exponent low : Int} (h : low ≤ exponent) (significand : Int) :
    scaled significand exponent = scaled (significand * 2 ^ (exponent - low).toNat) low := by
  have parts : exponent = ((exponent - low).toNat : Int) + low := by omega
  rw [scaled, scaled]
  conv_lhs => rw [parts]
  rw [zpow_add₀ two_ne_zero, zpow_natCast]
  push_cast
  ring

theorem scaled_lt_scaled_iff {m n e : Int} : scaled m e < scaled n e ↔ m < n := by
  have positive : (0 : ℚ) < 2 ^ e := zpow_pos two_pos e
  rw [scaled, scaled, mul_lt_mul_iff_left₀ positive, Int.cast_lt]

namespace Extent

/-- Where an extent lies on the line. What lies nowhere is put at the lower end. -/
def place : Extent → WithBot (WithTop ℚ)
  | .finite significand exponent => ((scaled significand exponent : ℚ) : WithTop ℚ)
  | .above => (⊤ : WithTop ℚ)
  | .below => ⊥
  | .nowhere => ⊥

theorem finite_lt_finite_iff {m e n f : Int} :
    (finite m e).lt (finite n f) = true ↔ scaled m e < scaled n f := by
  rw [lt, decide_eq_true_iff, scaled_eq (min_le_left e f), scaled_eq (min_le_right e f),
    scaled_lt_scaled_iff]

/-- The order of extents is that of their places. -/
theorem lt_iff {x y : Extent} (hx : x ≠ nowhere) (hy : y ≠ nowhere) :
    x.lt y = true ↔ x.place < y.place := by
  cases x with
  | nowhere => exact absurd rfl hx
  | below => cases y <;> simp_all [lt, place]
  | above => cases y <;> simp_all [lt, place]
  | finite m e =>
      cases y with
      | nowhere => exact absurd rfl hy
      | below => simp [lt, place]
      | above =>
          have inside : place (finite m e) < place above :=
            WithBot.coe_lt_coe.mpr (WithTop.coe_lt_top _)
          simp [lt, inside]
      | finite n f =>
          rw [finite_lt_finite_iff, place, place, WithBot.coe_lt_coe, WithTop.coe_lt_coe]

end Extent

/-- Where a number lies on the line. -/
def place (a : Number) : WithBot (WithTop ℚ) :=
  a.extent.place

/-- Only `nan` lies nowhere. -/
theorem extent_ne_nowhere {a : Number} (h : a ≠ .double .nan) : a.extent ≠ .nowhere := by
  rcases a with n | ⟨s, m, e, normal⟩ | s | _
  · exact nofun
  · exact nofun
  · cases s <;> exact nofun
  · exact absurd rfl h

/-- To compare numbers is to compare their places. -/
theorem lt_iff_place_lt {a b : Number} (ha : a ≠ .double .nan) (hb : b ≠ .double .nan) :
    a.lt b = true ↔ a.place < b.place :=
  Extent.lt_iff (extent_ne_nowhere ha) (extent_ne_nowhere hb)

end Number

end TicketFlow
