import Mathlib
import TicketFlow.Time.Text

/-!
# Padded numbers as bytes

A number that is padded to a width is a row of that many digits. A reader that finds
such a row at a position of a text reads the number back, whatever follows it. What
stands at a position is stated as what remains when the bytes before it are dropped.
-/

namespace TicketFlow.Timestamp

/-- The bytes of some characters. -/
def spelled (l : List Char) : List UInt8 :=
  (l.flatMap fun c => if c = 'Z' then "+00:00".toList else [c]).flatMap String.utf8EncodeChar

theorem bytes_eq_spelled (text : String) : bytes text = spelled text.toList := rfl

@[simp] theorem spelled_append (l r : List Char) : spelled (l ++ r) = spelled l ++ spelled r := by
  simp [spelled]

/-- The byte of a digit below ten. -/
def digit (d : Nat) : UInt8 :=
  UInt8.ofNat (48 + d)

/-- The last digits of a number, as many as the width. -/
def digitBytes : (width n : Nat) → List UInt8
  | 0, _ => []
  | width + 1, n => digitBytes width (n / 10) ++ [digit (n % 10)]

theorem spelled_digitChar {d : Nat} (h : d < 10) : spelled [d.digitChar] = [digit d] := by
  revert d
  decide

theorem toNat_digit {d : Nat} (h : d < 10) : (digit d).toNat = 48 + d := by
  revert d
  decide

theorem isDigit_digit {d : Nat} (h : d < 10) : isDigit (digit d) = true := by
  revert d
  decide

@[simp] theorem length_digitBytes (width n : Nat) : (digitBytes width n).length = width := by
  induction width generalizing n with
  | zero => rfl
  | succ width ih => simp [digitBytes, ih]

theorem isDigit_of_mem_digitBytes {width n : Nat} {u : UInt8} (h : u ∈ digitBytes width n) :
    isDigit u = true := by
  induction width generalizing n with
  | zero => exact absurd h List.not_mem_nil
  | succ width ih =>
      rcases List.mem_append.mp h with h | h
      · exact ih h
      · rw [List.mem_singleton.mp h]
        exact isDigit_digit (Nat.mod_lt _ (by decide))

theorem digitBytes_zero (width : Nat) : digitBytes width 0 = List.replicate width (digit 0) := by
  induction width with
  | zero => rfl
  | succ width ih => rw [digitBytes, Nat.zero_div, ih, Nat.zero_mod, List.replicate_succ']

/-- A row of digits has the value of the number that it writes. -/
theorem foldl_digitBytes {width n : Nat} (h : n < 10 ^ width) :
    (digitBytes width n).foldl (fun n u => 10 * n + (u.toNat - 48)) 0 = n := by
  induction width generalizing n with
  | zero =>
      rw [Nat.pow_zero, Nat.lt_one_iff] at h
      rw [h]
      rfl
  | succ width ih =>
      have shorter : n / 10 < 10 ^ width := by
        rw [Nat.pow_succ] at h
        exact Nat.div_lt_of_lt_mul (by rwa [Nat.mul_comm] at h)
      rw [digitBytes, List.foldl_append, ih shorter, List.foldl_cons, List.foldl_nil,
        toNat_digit (Nat.mod_lt _ (by decide)), Nat.add_sub_cancel_left]
      exact Nat.div_add_mod n 10

theorem spelled_replicate_zero (count : Nat) :
    spelled (List.replicate count '0') = List.replicate count (digit 0) := by
  induction count with
  | zero => rfl
  | succ count ih =>
      have zero : spelled ['0'] = [digit 0] := by decide
      rw [List.replicate_succ, ← List.singleton_append, spelled_append, zero, ih,
        List.singleton_append, ← List.replicate_succ]

/-- A padded number is a row of digits. -/
theorem spelled_padded {width n : Nat} (positive : 0 < width) (h : n < 10 ^ width) :
    spelled (padded width n).toList = digitBytes width n := by
  rw [padded, String.toList_ofList, spelled_append, spelled_replicate_zero]
  induction width generalizing n with
  | zero => exact absurd positive (Nat.lt_irrefl 0)
  | succ width ih =>
      by_cases small : n < 10
      · have last : spelled (Nat.toDigits 10 n) = [digit n] := by
          rw [Nat.toDigits_of_lt_base small]
          exact spelled_digitChar small
        rw [last, Nat.toDigits_of_lt_base small, digitBytes, Nat.mod_eq_of_lt small,
          Nat.div_eq_of_lt small, digitBytes_zero]
        rfl
      · have large : 10 ≤ n := Nat.le_of_not_lt small
        have shorter : n / 10 < 10 ^ width := by
          rw [Nat.pow_succ] at h
          exact Nat.div_lt_of_lt_mul (by rwa [Nat.mul_comm] at h)
        have wide : 0 < width := by
          rcases Nat.eq_zero_or_pos width with rfl | wide
          · rw [Nat.zero_add, Nat.pow_one] at h
            exact absurd h small
          · exact wide
        rw [Nat.toDigits_of_base_le (by decide) large, List.length_append, List.length_singleton,
          Nat.add_sub_add_right, spelled_append, ← List.append_assoc, ih wide shorter,
          spelled_digitChar (Nat.mod_lt _ (by decide))]
        rfl

/-! ## Reading at a position -/

variable {b rest : List UInt8} {p : Nat}

theorem drop_add_of_drop {l : List UInt8} (h : b.drop p = l ++ rest) {count : Nat}
    (length : l.length = count) : b.drop (p + count) = rest := by
  rw [← List.drop_drop, h, ← length, List.drop_left]

theorem byteAt_of_drop {l : List UInt8} (h : b.drop p = l) (i : Nat) :
    byteAt b (p + i) = l.getD i 0 := by
  simp [byteAt, ← h, List.getD_eq_getElem?_getD, List.getElem?_drop]

theorem byteAt_behind {l : List UInt8} (h : b.drop p = l ++ rest) {count : Nat}
    (length : l.length = count) : byteAt b (p + count) = rest.getD 0 0 :=
  byteAt_of_drop (drop_add_of_drop h length) 0

theorem digitsAt_of_drop {width n : Nat} (h : b.drop p = digitBytes width n ++ rest)
    (bound : n < 10 ^ width) : digitsAt b p width = some n := by
  have window : ((List.range width).map fun i => byteAt b (p + i)) = digitBytes width n := by
    refine List.ext_getElem (by simp) fun i hi hi' => ?_
    simp only [List.getElem_map, List.getElem_range, byteAt_of_drop h]
    rw [List.getD_eq_getElem?_getD, List.getElem?_append_left hi', List.getElem?_eq_getElem hi']
    rfl
  have digits : (digitBytes width n).all isDigit = true :=
    List.all_eq_true.mpr fun u hu => isDigit_of_mem_digitBytes hu
  simp only [digitsAt, window, digits, if_true, foldl_digitBytes bound]

theorem skipDigits_of_drop (h : b.drop p = rest) (stop : isDigit (rest.getD 0 0) = false) :
    skipDigits b p = p := by
  rw [skipDigits, h]
  cases rest with
  | nil => rfl
  | cons u rest =>
      rw [List.getD_cons_zero] at stop
      rw [List.takeWhile_cons_of_neg (by simp [stop])]
      rfl

end TicketFlow.Timestamp
