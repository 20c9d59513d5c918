import TicketFlow.Proofs.Workflow.RoundTrip

/-!
# The normal form of a timestamp

A timestamp can be written in many ways. Its text is one of them: it is read as the same
timestamp, so it is the only normal form that reading and writing lead to, and different
timestamps have different texts. Apart from the `Z`, which replaces a zero offset wherever
one begins, also in front of seconds, it is the plain text of date, time and offset.
-/

namespace TicketFlow.Timestamp

/-! ## Plain texts -/

/-- The seconds and microseconds of an offset, if it has any. -/
def offsetTail (o : Offset) : String :=
  if offsetSeconds o % 60 = 0 ∧ offsetMicros o = 0 then ""
  else ":" ++ padded 2 (offsetSeconds o % 60) ++ fractionText (offsetMicros o)

/-- An offset with its sign, hours and minutes in any case. -/
def plainOffsetText (o : Offset) : String :=
  (if o.microseconds < 0 then "-" else "+") ++ padded 2 (offsetSeconds o / 3600) ++ ":" ++
    padded 2 (offsetSeconds o / 60 % 60) ++ offsetTail o

/-- Date, time and offset, without any `Z`. -/
def plainText (t : Timestamp) : String :=
  dateText t.date ++ "T" ++ timeText t.time ++ (t.offset?.map plainOffsetText).getD ""

/-- Write `Z` for each `+00:00`, from left to right. -/
def zulu : List Char → List Char
  | '+' :: '0' :: '0' :: ':' :: '0' :: '0' :: rest => 'Z' :: zulu rest
  | c :: rest => c :: zulu rest
  | [] => []

theorem zulu_cons {c : Char} (h : c ≠ '+') (rest : List Char) :
    zulu (c :: rest) = c :: zulu rest := by
  rw [zulu]
  rintro _ rfl
  exact absurd rfl h

theorem zulu_plus {l : List Char} (h : ∀ rest, l ≠ '0' :: '0' :: ':' :: '0' :: '0' :: rest) :
    zulu ('+' :: l) = '+' :: zulu l := by
  rw [zulu]
  rintro rest - same
  exact h rest same

theorem zulu_append {l : List Char} (h : '+' ∉ l) (rest : List Char) :
    zulu (l ++ rest) = l ++ zulu rest := by
  induction l with
  | nil => rfl
  | cons c l ih =>
      rw [List.mem_cons, not_or] at h
      rw [List.cons_append, zulu_cons (Ne.symm h.1), ih h.2, List.cons_append]

theorem zulu_of_not_mem {l : List Char} (h : '+' ∉ l) : zulu l = l := by
  have whole := zulu_append h []
  rwa [List.append_nil, zulu, List.append_nil] at whole

theorem plus_not_mem_padded (width n : Nat) : '+' ∉ (padded width n).toList := by
  rw [padded, String.toList_ofList, List.mem_append, not_or]
  refine ⟨fun h => ?_, fun h => ?_⟩
  · exact absurd (List.eq_of_mem_replicate h) (by decide)
  · exact absurd (Nat.isDigit_of_mem_toDigits (by decide) (by decide) h) (by decide)

theorem plus_not_mem_fractionText (microsecond : Nat) :
    '+' ∉ (fractionText microsecond).toList := by
  rw [fractionText]
  split
  · decide
  · simp [plus_not_mem_padded]

theorem plus_not_mem_front (t : Timestamp) :
    '+' ∉ (dateText t.date ++ "T" ++ timeText t.time).toList := by
  simp [dateText, timeText, plus_not_mem_padded, plus_not_mem_fractionText]

theorem toList_padded_two {n : Nat} (h : n < 100) :
    (padded 2 n).toList = [(n / 10).digitChar, (n % 10).digitChar] := by
  revert n
  decide

theorem digitChar_eq_zero_iff {d : Nat} (h : d < 10) : d.digitChar = '0' ↔ d = 0 := by
  revert d
  decide

theorem offsetText_eq_append (o : Offset) : offsetText o = offsetShortText o ++ offsetTail o := by
  rw [offsetText_eq, offsetTail]
  split <;> simp [String.append_assoc]

theorem plus_not_mem_offsetTail (o : Offset) : '+' ∉ (offsetTail o).toList := by
  rw [offsetTail]
  split
  · decide
  · simp [plus_not_mem_padded, plus_not_mem_fractionText]

/-- Hours and minutes of an offset, and what follows them. -/
def plainOffsetRest (o : Offset) : List Char :=
  (padded 2 (offsetSeconds o / 3600)).toList ++ ':' ::
    ((padded 2 (offsetSeconds o / 60 % 60)).toList ++ (offsetTail o).toList)

theorem plus_not_mem_plainOffsetRest (o : Offset) : '+' ∉ plainOffsetRest o := by
  simp [plainOffsetRest, plus_not_mem_padded, plus_not_mem_offsetTail]

theorem plainOffsetRest_eq_zeros {o : Offset} {rest : List Char}
    (h : plainOffsetRest o = '0' :: '0' :: ':' :: '0' :: '0' :: rest) :
    offsetSeconds o / 3600 = 0 ∧ offsetSeconds o / 60 % 60 = 0 := by
  have bound := offsetSeconds_lt o
  have hours : offsetSeconds o / 3600 < 100 := by omega
  have minutes : offsetSeconds o / 60 % 60 < 100 := by omega
  rw [plainOffsetRest, toList_padded_two hours, toList_padded_two minutes] at h
  simp only [List.cons_append, List.nil_append, List.cons.injEq] at h
  obtain ⟨h₁, h₂, -, m₁, m₂, -⟩ := h
  rw [digitChar_eq_zero_iff (by omega)] at h₁ h₂ m₁ m₂
  omega

/-- The text of an offset is the plain one up to `Z`. -/
theorem zulu_plainOffsetText (o : Offset) :
    zulu (plainOffsetText o).toList = (offsetText o).toList := by
  have rest := zulu_of_not_mem (plus_not_mem_plainOffsetRest o)
  have plain : (plainOffsetText o).toList =
      (if o.microseconds < 0 then '-' else '+') :: plainOffsetRest o := by
    rw [plainOffsetText, plainOffsetRest]
    split <;> simp
  rw [plain, offsetText_eq_append, offsetShortText]
  by_cases west : o.microseconds < 0
  · -- Behind a minus nothing is replaced.
    have notEast : ¬0 ≤ o.microseconds := Int.not_le.mpr west
    rw [if_pos west, if_pos west, if_neg fun zero => notEast zero.1, zulu_cons (by decide), rest]
    simp [plainOffsetRest]
  · rw [if_neg west, if_neg west]
    split
    case isTrue zero =>
      have tail := zulu_of_not_mem (plus_not_mem_offsetTail o)
      have zeros : (padded 2 0).toList = ['0', '0'] := by decide
      rw [plainOffsetRest, zero.2.1, zero.2.2, zeros]
      simp [zulu, tail]
    case isFalse other =>
      rw [zulu_plus fun _ zeros => other ⟨Int.not_lt.mp west, plainOffsetRest_eq_zeros zeros⟩, rest]
      simp [plainOffsetRest]

/-- The text of a timestamp is the plain one with `Z` for each `+00:00`. -/
theorem toList_text (t : Timestamp) : t.text.toList = zulu (plainText t).toList := by
  have plain : (plainText t).toList = (dateText t.date ++ "T" ++ timeText t.time).toList ++
      ((t.offset?.map plainOffsetText).getD "").toList := String.toList_append
  have zone : zulu ((t.offset?.map plainOffsetText).getD "").toList =
      ((t.offset?.map offsetText).getD "").toList := by
    cases t.offset? with
    | none => rfl
    | some o => exact zulu_plainOffsetText o
  rw [plain, zulu_append (plus_not_mem_front t), zone, text, String.toList_append]

/-! ## The normal form -/

/-- Different timestamps have different texts. -/
theorem text_injective : Function.Injective text := by
  intro t t' same
  have read := ofText?_text t
  rw [same, ofText?_text t', Option.some.injEq] at read
  exact read.symm

/-- What is read from a text is written in a way that is read as the same timestamp, with
the same date, time and offset, and that is not changed by reading and writing it again.
So texts have the same normal form exactly when they are read as the same timestamp. It is
the plain text of the timestamp with `Z` for each `+00:00`. -/
theorem readText_normalizes (s : String) (t : Timestamp) (h : readText s = .ok (some t)) :
    t.text.toList = zulu (plainText t).toList ∧ readText t.text = .ok (some t) ∧
      (readText t.text).map (Option.map text) = (readText s).map (Option.map text) ∧
      ∀ s' t', readText s' = .ok (some t') → (t'.text = t.text ↔ readText s' = readText s) := by
  have again : readText t.text = .ok (some t) := readText_text t
  refine ⟨toList_text t, again, by rw [again, h], fun s' t' h' => ?_⟩
  rw [h, h', Except.ok.injEq, Option.some.injEq]
  exact text_injective.eq_iff

/-- The Monday of the first week of 2024, half a minute ahead of universal time, with a
comma, more digits than a timestamp keeps and a letter that is not the usual one. -/
def laxText : String :=
  "2024-W01-1_000005,1234567+00:00:30"

/-- Its normal form has a `Z` in front of the seconds of its offset. -/
theorem laxText_normalizes : ∃ t, readText laxText = .ok (some t) ∧
    t.text = "2024-01-01T00:00:05.123456Z:30" ∧ readText t.text = .ok (some t) := by
  have parts : ofText? laxText = some ⟨⟨2024, 1, 1, by decide⟩, ⟨0, 0, 5, 123456, by decide⟩,
      some ⟨30000000, by decide, by decide⟩⟩ := by decide +kernel
  have read : readText laxText = .ok (ofText? laxText) := by
    rw [readText, if_neg (by decide), parts]
  rw [parts] at read
  exact ⟨_, read, by decide +kernel, (readText_normalizes laxText _ read).2.1⟩

end TicketFlow.Timestamp
