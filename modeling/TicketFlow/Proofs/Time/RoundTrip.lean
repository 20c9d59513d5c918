import TicketFlow.Proofs.Time.Digits

/-!
# Timestamps read back

The text of a timestamp is read as that timestamp. A date always takes ten bytes, so
the separator is found there; the sign of the offset is the first one behind it; and
a clock stops where its digits do.
-/

namespace TicketFlow.Timestamp

variable {b rest : List UInt8} {p : Nat}

/-! ## Clocks -/

/-- The bytes of a fraction of a second. -/
def fractionBytes (microsecond : Nat) : List UInt8 :=
  if microsecond = 0 then [] else ascii '.' :: digitBytes 6 microsecond

/-- The bytes of hours and minutes. -/
def shortClockBytes (hour minute : Nat) : List UInt8 :=
  digitBytes 2 hour ++ ascii ':' :: digitBytes 2 minute

/-- The bytes of hours, minutes and seconds with their fraction. -/
def clockBytes (hour minute second microsecond : Nat) : List UInt8 :=
  shortClockBytes hour minute ++ ascii ':' :: digitBytes 2 second ++ fractionBytes microsecond

theorem length_shortClockBytes (hour minute : Nat) :
    (shortClockBytes hour minute).length = 5 := by
  simp [shortClockBytes]

theorem length_clockBytes (hour minute second microsecond : Nat) :
    (clockBytes hour minute second microsecond).length = if microsecond = 0 then 8 else 15 := by
  rw [clockBytes, fractionBytes]
  split <;> simp [length_shortClockBytes]

theorem spelled_padded_two {n : Nat} (h : n < 100) :
    spelled (padded 2 n).toList = digitBytes 2 n :=
  spelled_padded (by decide) h

theorem spelled_fractionText {microsecond : Nat} (h : microsecond < 1000000) :
    spelled (fractionText microsecond).toList = fractionBytes microsecond := by
  have point : spelled ".".toList = [ascii '.'] := by decide
  rw [fractionText, fractionBytes]
  split
  · rfl
  · rw [String.toList_append, spelled_append, point, spelled_padded (by decide) h]
    rfl

/-- Two digits and a colon are read as the next part of a clock. -/
theorem readParts_colon {n left stop : Nat} {colons? : Option Bool} {parts : List Nat}
    (h : b.drop p = digitBytes 2 n ++ ascii ':' :: rest) (bound : n < 100)
    (colons : colons?.getD true = true) (more : p + 3 < stop) :
    Clock.readParts b stop (left + 1) p colons? parts =
      Clock.readParts b stop left (p + 3) (some true) (parts ++ [n]) := by
  have colon : byteAt b (p + 2) = ascii ':' := by
    rw [byteAt_behind h (by simp)]
    rfl
  rw [Clock.readParts, digitsAt_of_drop h bound]
  simp [colons, colon, Nat.not_le.mpr more]

theorem readParts_last {n left stop : Nat} {colons? : Option Bool} {parts : List Nat}
    (h : b.drop p = digitBytes 2 n ++ rest) (bound : n < 100) (last : stop ≤ p + 3) :
    Clock.readParts b stop (left + 1) p colons? parts =
      some (Clock.ofParts (parts ++ [n]) 0 (rest.getD 0 0 == 0)) := by
  have next : byteAt b (p + 2) = rest.getD 0 0 := byteAt_behind h (by simp)
  rw [Clock.readParts, digitsAt_of_drop h bound]
  simp [next, last]

theorem readParts_point {n micros left stop : Nat} {parts : List Nat}
    (h : b.drop p = digitBytes 2 n ++ ascii '.' :: (digitBytes 6 micros ++ rest))
    (bound : n < 100) (bound' : micros < 1000000) (last : stop = p + 9)
    (end? : isDigit (rest.getD 0 0) = false) :
    Clock.readParts b stop (left + 1) p (some true) parts =
      some (Clock.ofParts (parts ++ [n]) micros (rest.getD 0 0 == 0)) := by
  have point : byteAt b (p + 2) = ascii '.' := by
    rw [byteAt_behind h (by simp)]
    rfl
  have fraction : b.drop (p + 3) = digitBytes 6 micros ++ rest := by
    refine drop_add_of_drop (l := digitBytes 2 n ++ [ascii '.']) ?_ (by simp)
    rw [h]
    simp
  have after : b.drop (p + 3 + 6) = rest := drop_add_of_drop fraction (by simp)
  have next : byteAt b (p + 3 + 6) = rest.getD 0 0 := byteAt_of_drop after 0
  have more : ¬stop ≤ p + 3 := by omega
  have count : min 6 (stop - (p + 3)) = 6 := by omega
  have notColon : (ascii '.' == ascii ':') = false := by decide
  rw [Clock.readParts, digitsAt_of_drop h bound]
  simp only [point, notColon, Clock.readFraction, count, digitsAt_of_drop fraction bound',
    skipDigits_of_drop after end?, next]
  simp [more]

/-- A clock is read up to its end. -/
theorem read_clock {hour minute second micros : Nat}
    (h : b.drop p = clockBytes hour minute second micros ++ rest) (hhour : hour < 100)
    (hminute : minute < 100) (hsecond : second < 100) (hmicros : micros < 1000000)
    (stop : isDigit (rest.getD 0 0) = false) :
    Clock.read b p (p + (clockBytes hour minute second micros).length) =
      some ⟨hour, minute, second, micros, rest.getD 0 0 == 0⟩ := by
  have hours : b.drop p = digitBytes 2 hour ++ ascii ':' :: (digitBytes 2 minute ++ ascii ':' ::
      (digitBytes 2 second ++ (fractionBytes micros ++ rest))) := by
    rw [h]
    simp [clockBytes, shortClockBytes]
  have minutes : b.drop (p + 3) = digitBytes 2 minute ++ ascii ':' ::
      (digitBytes 2 second ++ (fractionBytes micros ++ rest)) :=
    drop_add_of_drop (l := digitBytes 2 hour ++ [ascii ':']) (by simp [hours]) (by simp)
  have seconds : b.drop (p + 3 + 3) = digitBytes 2 second ++ (fractionBytes micros ++ rest) :=
    drop_add_of_drop (l := digitBytes 2 minute ++ [ascii ':']) (by simp [minutes]) (by simp)
  rw [Clock.read, length_clockBytes]
  by_cases whole : micros = 0
  · subst whole
    rw [if_pos rfl, readParts_colon hours hhour rfl (by omega),
      readParts_colon minutes hminute rfl (by omega)]
    exact readParts_last seconds hsecond (by omega)
  · rw [fractionBytes, if_neg whole] at seconds
    rw [if_neg whole, readParts_colon hours hhour rfl (by omega),
      readParts_colon minutes hminute rfl (by omega)]
    exact readParts_point seconds hsecond hmicros (by omega) stop

theorem read_shortClock {hour minute : Nat}
    (h : b.drop p = shortClockBytes hour minute ++ rest) (hhour : hour < 100)
    (hminute : minute < 100) :
    Clock.read b p (p + 5) = some ⟨hour, minute, 0, 0, rest.getD 0 0 == 0⟩ := by
  have hours : b.drop p = digitBytes 2 hour ++ ascii ':' :: (digitBytes 2 minute ++ rest) := by
    rw [h]
    simp [shortClockBytes]
  have minutes : b.drop (p + 3) = digitBytes 2 minute ++ rest :=
    drop_add_of_drop (l := digitBytes 2 hour ++ [ascii ':']) (by simp [hours]) (by simp)
  rw [Clock.read, readParts_colon hours hhour rfl (by omega)]
  exact readParts_last minutes hminute (by omega)

/-! ## Offsets -/

/-- The sign of an offset. -/
def signByte (o : Offset) : UInt8 :=
  if o.microseconds < 0 then ascii '-' else ascii '+'

def offsetSeconds (o : Offset) : Nat :=
  o.microseconds.natAbs / 1000000

def offsetMicros (o : Offset) : Nat :=
  o.microseconds.natAbs % 1000000

/-- The bytes of an offset behind its sign. -/
def offsetClockBytes (o : Offset) : List UInt8 :=
  let seconds := offsetSeconds o
  if seconds % 60 = 0 ∧ offsetMicros o = 0 then
    shortClockBytes (seconds / 3600) (seconds / 60 % 60)
  else clockBytes (seconds / 3600) (seconds / 60 % 60) (seconds % 60) (offsetMicros o)

theorem offsetSeconds_lt (o : Offset) : offsetSeconds o < 86400 :=
  Nat.div_lt_of_lt_mul (by simpa using o.within_day)

theorem offsetMicros_lt (o : Offset) : offsetMicros o < 1000000 :=
  Nat.mod_lt _ (by decide)

/-- The sign, the hours and the minutes of an offset; `Z` stands for zeros. -/
def offsetShortText (o : Offset) : String :=
  if 0 ≤ o.microseconds ∧ offsetSeconds o / 3600 = 0 ∧ offsetSeconds o / 60 % 60 = 0 then "Z"
  else (if o.microseconds < 0 then "-" else "+") ++ padded 2 (offsetSeconds o / 3600) ++ ":" ++
    padded 2 (offsetSeconds o / 60 % 60)

theorem offsetText_eq (o : Offset) :
    offsetText o =
      if offsetSeconds o % 60 = 0 ∧ offsetMicros o = 0 then offsetShortText o
      else offsetShortText o ++ ":" ++ padded 2 (offsetSeconds o % 60) ++
        fractionText (offsetMicros o) := rfl

theorem spelled_offsetShortText (o : Offset) :
    spelled (offsetShortText o).toList =
      signByte o :: shortClockBytes (offsetSeconds o / 3600) (offsetSeconds o / 60 % 60) := by
  have zeros : spelled "Z".toList = ascii '+' :: shortClockBytes 0 0 := by decide
  have colon : spelled ":".toList = [ascii ':'] := by decide
  have sign : spelled (if o.microseconds < 0 then "-" else "+").toList = [signByte o] := by
    rw [signByte]
    split <;> decide
  have hours : offsetSeconds o / 3600 < 100 := by
    have := offsetSeconds_lt o
    omega
  have minutes : offsetSeconds o / 60 % 60 < 100 := by omega
  rw [offsetShortText]
  split
  case isTrue h =>
    rw [zeros, signByte, if_neg (Int.not_lt.mpr h.1), h.2.1, h.2.2]
  case isFalse =>
    simp only [String.toList_append, spelled_append, sign, colon,
      spelled_padded_two hours, spelled_padded_two minutes]
    simp [shortClockBytes]

theorem spelled_offsetText (o : Offset) :
    spelled (offsetText o).toList = signByte o :: offsetClockBytes o := by
  have colon : spelled ":".toList = [ascii ':'] := by decide
  have seconds : offsetSeconds o % 60 < 100 := by omega
  rw [offsetText_eq, offsetClockBytes]
  split
  · exact spelled_offsetShortText o
  · simp only [String.toList_append, spelled_append, spelled_offsetShortText, colon,
      spelled_padded_two seconds, spelled_fractionText (offsetMicros_lt o)]
    simp [clockBytes]

/-- An offset is its seconds and microseconds on its side. -/
theorem of?_offset (o : Offset) :
    Offset.of? (signByte o == ascii '-') (offsetSeconds o) (offsetMicros o) = some o := by
  obtain ⟨n, withinDay, zeroOrSecond⟩ := o
  have west : (signByte ⟨n, withinDay, zeroOrSecond⟩ == ascii '-') = decide (n < 0) := by
    rw [signByte]
    by_cases h : n < 0
    · simp [h]
    · simp only [h, if_false, decide_false]
      decide
  have parts : n.natAbs / 1000000 * 1000000 + n.natAbs % 1000000 = n.natAbs :=
    Nat.div_add_mod' _ _
  rw [west]
  simp only [Offset.of?, offsetSeconds, offsetMicros, parts, decide_eq_true_eq]
  split
  case isTrue none =>
    have zero : n = 0 := by omega
    subst zero
    rfl
  case isFalse =>
    have signed : (if n < 0 then -(n.natAbs : Int) else n.natAbs) = n := by
      split <;> omega
    simp only [signed]
    rw [dif_pos ⟨withinDay, zeroOrSecond⟩]

/-- An offset is read up to the end of the text. -/
theorem readOffset_of_drop {o : Offset} (h : b.drop p = signByte o :: offsetClockBytes o) :
    readOffset b p = some o := by
  have sign : byteAt b p = signByte o := byteAt_of_drop h 0
  have clock : b.drop (p + 1) = offsetClockBytes o :=
    drop_add_of_drop (l := [signByte o]) h rfl
  have length : b.length = p + 1 + (offsetClockBytes o).length := by
    have counted := congrArg List.length h
    rw [List.length_drop, List.length_cons] at counted
    omega
  have hours : offsetSeconds o / 3600 < 100 := by
    have := offsetSeconds_lt o
    omega
  have minutes : offsetSeconds o / 60 % 60 < 100 := by omega
  have read : Clock.read b (p + 1) b.length = some ⟨offsetSeconds o / 3600,
      offsetSeconds o / 60 % 60, offsetSeconds o % 60, offsetMicros o, true⟩ := by
    rw [length]
    rw [← List.append_nil (offsetClockBytes o)] at clock
    rw [offsetClockBytes] at clock ⊢
    split at clock
    case isTrue whole =>
      rw [if_pos whole, length_shortClockBytes, whole.1, whole.2]
      exact read_shortClock clock hours minutes
    case isFalse whole =>
      rw [if_neg whole]
      exact read_clock clock hours minutes (by omega) (offsetMicros_lt o) (by decide)
  have total : offsetSeconds o / 3600 * 3600 + offsetSeconds o / 60 % 60 * 60 +
      offsetSeconds o % 60 = offsetSeconds o := by omega
  rw [readOffset, read, sign]
  simp [total, of?_offset]

/-! ## Dates and times -/

def dateBytes (d : Date) : List UInt8 :=
  digitBytes 4 d.year ++ ascii '-' :: (digitBytes 2 d.month ++ ascii '-' :: digitBytes 2 d.day)

def timeBytes (t : TimeOfDay) : List UInt8 :=
  clockBytes t.hour t.minute t.second t.microsecond

def zoneBytes (offset? : Option Offset) : List UInt8 :=
  (offset?.map fun o => signByte o :: offsetClockBytes o).getD []

theorem length_dateBytes (d : Date) : (dateBytes d).length = 10 := by
  simp [dateBytes]

theorem date_bounds (d : Date) : d.year < 10000 ∧ d.month < 100 ∧ d.day < 100 := by
  obtain ⟨-, year, -, month, -, day⟩ := d.exists_day
  have length : Calendar.daysInMonth d.year d.month ≤ 31 := by
    rw [Calendar.daysInMonth]
    split_ifs <;> decide
  omega

theorem bytes_text (t : Timestamp) :
    bytes t.text = dateBytes t.date ++ ascii 'T' :: (timeBytes t.time ++ zoneBytes t.offset?) := by
  have dash : spelled "-".toList = [ascii '-'] := by decide
  have colon : spelled ":".toList = [ascii ':'] := by decide
  have letter : spelled "T".toList = [ascii 'T'] := by decide
  obtain ⟨year, month, day⟩ := date_bounds t.date
  obtain ⟨hour, minute, second, micros⟩ := t.time.exists_time
  have zone : spelled ((t.offset?.map offsetText).getD "").toList = zoneBytes t.offset? := by
    cases t.offset? with
    | none => rfl
    | some o => exact spelled_offsetText o
  have year' : spelled (padded 4 t.date.year).toList = digitBytes 4 t.date.year :=
    spelled_padded (by decide) year
  rw [bytes_eq_spelled]
  simp only [text, dateText, timeText, String.toList_append, spelled_append, dash, colon, letter,
    zone, year', spelled_padded_two month, spelled_padded_two day,
    spelled_padded_two (show t.time.hour < 100 by omega),
    spelled_padded_two (show t.time.minute < 100 by omega),
    spelled_padded_two (show t.time.second < 100 by omega), spelled_fractionText micros]
  simp [dateBytes, timeBytes, clockBytes, shortClockBytes]

/-- No timestamp has the empty text. -/
theorem text_ne_empty (t : Timestamp) : t.text ≠ "" := by
  intro empty
  have layout := bytes_text t
  have none : bytes "" = [] := rfl
  rw [empty, none] at layout
  exact List.append_ne_nil_of_right_ne_nil _ (List.cons_ne_nil _ _) layout.symm

theorem isDigit_byteAt {n : Nat} (h : b.drop p = digitBytes 2 n ++ rest) :
    isDigit (byteAt b p) = true := by
  have first : byteAt b p = digit (n / 10 % 10) := byteAt_of_drop h 0
  rw [first]
  exact isDigit_digit (Nat.mod_lt _ (by decide))

/-- Where the parts of a date stand. -/
theorem dateBytes_layout {d : Date} (h : b = dateBytes d ++ ascii 'T' :: rest) :
    (∃ r, b.drop 0 = digitBytes 4 d.year ++ r) ∧ byteAt b 4 = ascii '-' ∧
      (∃ r, b.drop 5 = digitBytes 2 d.month ++ r) ∧ byteAt b 5 ≠ ascii 'W' ∧
      byteAt b 7 = ascii '-' ∧ (∃ r, b.drop 8 = digitBytes 2 d.day ++ r) := by
  have year : b.drop 0 = digitBytes 4 d.year ++ ascii '-' ::
      (digitBytes 2 d.month ++ ascii '-' :: (digitBytes 2 d.day ++ ascii 'T' :: rest)) := by
    rw [h]
    simp [dateBytes]
  have month : b.drop (0 + 5) = digitBytes 2 d.month ++ ascii '-' ::
      (digitBytes 2 d.day ++ ascii 'T' :: rest) :=
    drop_add_of_drop (l := digitBytes 4 d.year ++ [ascii '-']) (by rw [year]; simp) (by simp)
  have day : b.drop (0 + 5 + 3) = digitBytes 2 d.day ++ ascii 'T' :: rest :=
    drop_add_of_drop (l := digitBytes 2 d.month ++ [ascii '-']) (by rw [month]; simp) (by simp)
  have noWeek : byteAt b 5 ≠ ascii 'W' := by
    intro week
    have digit := isDigit_byteAt month
    rw [week] at digit
    exact absurd digit (by decide)
  exact ⟨⟨_, year⟩, byteAt_behind year (length_digitBytes 4 _), ⟨_, month⟩, noWeek,
    byteAt_behind month (length_digitBytes 2 _), ⟨_, day⟩⟩

theorem ten_lt_length {d : Date} (h : b = dateBytes d ++ ascii 'T' :: rest) : 10 < b.length := by
  rw [h, List.length_append, length_dateBytes, List.length_cons]
  omega

/-- The separator stands behind the ten bytes of a date. -/
theorem separator?_dateBytes {d : Date} (h : b = dateBytes d ++ ascii 'T' :: rest) :
    separator? b = some 10 := by
  obtain ⟨-, dash, -, noWeek, -, -⟩ := dateBytes_layout h
  have long := ten_lt_length h
  simp only [separator?, dash, beq_self_eq_true, if_true, if_neg noWeek]
  rw [if_neg (by omega), if_neg (by omega)]

theorem readDate_dateBytes {d : Date} (h : b = dateBytes d ++ ascii 'T' :: rest) :
    readDate b 10 = some d := by
  obtain ⟨⟨_, year⟩, dash, ⟨_, month⟩, noWeek, dash', ⟨_, day⟩⟩ := dateBytes_layout h
  obtain ⟨yearBound, monthBound, dayBound⟩ := date_bounds d
  have year? : digitsAt b 0 4 = some d.year := digitsAt_of_drop year yearBound
  have month? : digitsAt b 5 2 = some d.month := digitsAt_of_drop month monthBound
  have day? : digitsAt b 8 2 = some d.day := digitsAt_of_drop day dayBound
  simp [readDate, year?, dash, noWeek, month?, dash', day?, Date.of?_self]

theorem isSign_of_mem_clockBytes {hour minute second micros : Nat} {u : UInt8}
    (h : u ∈ clockBytes hour minute second micros) :
    (u == ascii '+' || u == ascii '-') = false := by
  have digits : ∀ {width n : Nat}, u ∈ digitBytes width n →
      (u == ascii '+' || u == ascii '-') = false := by
    intro width n hu
    have isDigit := isDigit_of_mem_digitBytes hu
    by_contra sign
    rw [Bool.not_eq_false, Bool.or_eq_true, beq_iff_eq, beq_iff_eq] at sign
    rcases sign with rfl | rfl
    · exact absurd isDigit (by decide)
    · exact absurd isDigit (by decide)
  have fraction : u ∈ fractionBytes micros → (u == ascii '+' || u == ascii '-') = false := by
    intro hu
    rw [fractionBytes] at hu
    split at hu
    · exact absurd hu List.not_mem_nil
    · rcases List.mem_cons.mp hu with rfl | hu
      · decide
      · exact digits hu
  simp only [clockBytes, shortClockBytes, List.mem_append, List.mem_cons] at h
  rcases h with ((h | rfl | h) | rfl | h) | h
  · exact digits h
  · decide
  · exact digits h
  · decide
  · exact digits h
  · exact fraction h

/-- The offset begins with the first sign behind the clock, or there is none. -/
theorem zonePosition_of_drop {time : TimeOfDay} {offset? : Option Offset}
    (h : b.drop p = timeBytes time ++ zoneBytes offset?) :
    zonePosition b p = p + (timeBytes time).length := by
  have length : b.length - p = (timeBytes time).length + (zoneBytes offset?).length := by
    rw [← List.length_drop, h, List.length_append]
  have positive : 8 ≤ (timeBytes time).length := by
    rw [timeBytes, length_clockBytes]
    split <;> decide
  have clock : (timeBytes time).findIdx? (fun u => u == ascii '+' || u == ascii '-') = none :=
    List.findIdx?_eq_none_iff.mpr fun u hu => isSign_of_mem_clockBytes hu
  rw [zonePosition, h, List.findIdx?_append, clock]
  cases offset? with
  | none =>
      simp only [zoneBytes, Option.map_none, Option.getD_none, List.length_nil] at length ⊢
      change max b.length (p + 1) = _
      omega
  | some o =>
      have sign : (signByte o == ascii '+' || signByte o == ascii '-') = true := by
        rw [signByte]
        split <;> decide
      simp [zoneBytes, List.findIdx?_cons, sign]

theorem readTime_of_drop {time : TimeOfDay} {offset? : Option Offset}
    (h : b.drop p = timeBytes time ++ zoneBytes offset?) :
    readTime b p = some (time, offset?) := by
  obtain ⟨hour, minute, second, micros⟩ := time.exists_time
  have stop : isDigit ((zoneBytes offset?).getD 0 0) = false := by
    cases offset? with
    | none => decide
    | some o =>
        change isDigit (signByte o) = false
        rw [signByte]
        split <;> decide
  have clock : Clock.read b p (p + (timeBytes time).length) =
      some ⟨time.hour, time.minute, time.second, time.microsecond,
        (zoneBytes offset?).getD 0 0 == 0⟩ :=
    read_clock h (by omega) (by omega) (by omega) micros stop
  have behind : b.drop (p + (timeBytes time).length) = zoneBytes offset? := drop_add_of_drop h rfl
  rw [readTime, zonePosition_of_drop h, clock]
  cases offset? with
  | none =>
      have ended : b.length ≤ p + (timeBytes time).length := List.drop_eq_nil_iff.mp behind
      simp [ended, zoneBytes, TimeOfDay.of?_self]
  | some o =>
      have more : ¬b.length ≤ p + (timeBytes time).length := by
        intro ended
        rw [List.drop_eq_nil_iff.mpr ended] at behind
        exact List.cons_ne_nil _ _ behind.symm
      simp [more, readOffset_of_drop behind, TimeOfDay.of?_self]

/-- The text of a timestamp is read as that timestamp. -/
theorem ofText?_text (t : Timestamp) : ofText? t.text = some t := by
  have layout := bytes_text t
  rw [ofText?]
  generalize bytes t.text = b at layout ⊢
  have start : b.drop 0 = dateBytes t.date ++
      ascii 'T' :: (timeBytes t.time ++ zoneBytes t.offset?) := layout
  have letter : byteAt b (0 + 10) = ascii 'T' := byteAt_behind start (length_dateBytes t.date)
  have time : b.drop (0 + 11) = timeBytes t.time ++ zoneBytes t.offset? := by
    refine drop_add_of_drop (l := dateBytes t.date ++ [ascii 'T']) ?_ (by simp [length_dateBytes])
    rw [start]
    simp
  have long := ten_lt_length layout
  have width : characterWidth (ascii 'T') = 1 := by decide
  rw [Nat.zero_add] at letter time
  rw [ofBytes?, separator?_dateBytes layout]
  simp [readDate_dateBytes layout, long, letter, width, readTime_of_drop time]

end TicketFlow.Timestamp
