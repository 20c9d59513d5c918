/-!
# Calendar dates and times of day

Dates of the years 1 to 9999 in the proleptic Gregorian calendar. A `Date` and
a `TimeOfDay` carry the evidence that they exist, so the smart constructors
`of?` are the only places that check. Days are numbered from 1 for the first of
January of year 1, a Monday; week dates are defined through these numbers.
-/

namespace TicketFlow

namespace Calendar

/-- Every fourth year, except centuries that are not divisible by 400. -/
def isLeap (year : Nat) : Bool :=
  year % 4 == 0 && (year % 100 != 0 || year % 400 == 0)

/-- The length of a month. -/
def daysInMonth (year month : Nat) : Nat :=
  if month = 2 then (if isLeap year then 29 else 28)
  else if month = 4 ∨ month = 6 ∨ month = 9 ∨ month = 11 then 30
  else 31

/-- The number of days before a year. -/
def daysBeforeYear (year : Nat) : Nat :=
  let y := year - 1
  y * 365 + y / 4 - y / 100 + y / 400

/-- Find the day of a year that has `n` days before it, from a month on. -/
def dayOfYear (year : Nat) : (months month n : Nat) → Nat × Nat
  | 0, month, n => (month, n + 1)
  | months + 1, month, n =>
    if n < daysInMonth year month then (month, n + 1)
    else dayOfYear year months (month + 1) (n - daysInMonth year month)

/-- The year, month and day of a numbered day. The number is split into periods
of 400, 100, 4 and 1 years; the last day of a long period is set apart. -/
def ofDayNumber (number : Nat) : Nat × Nat × Nat :=
  let n := number - 1
  let (n400, n) := (n / 146097, n % 146097)
  let (n100, n) := (n / 36524, n % 36524)
  let (n4, n) := (n / 1461, n % 1461)
  let (n1, n) := (n / 365, n % 365)
  let year := n400 * 400 + n100 * 100 + n4 * 4 + n1 + 1
  if n1 = 4 ∨ n100 = 4 then (year - 1, 12, 31)
  else
    let (month, day) := dayOfYear year 11 1 n
    (year, month, day)

/-- The day of the week on which a year begins, from 0 for Monday. -/
def firstWeekday (year : Nat) : Nat :=
  daysBeforeYear year % 7

/-- The number of the Monday of the first week. The first week is the one that
holds the first Thursday of the year; its Monday can lie in the year before. -/
def firstMonday (year : Nat) : Int :=
  let first : Int := daysBeforeYear year + 1
  first - firstWeekday year + (if 3 < firstWeekday year then 7 else 0)

/-- The number of weeks of a year. -/
def weeksInYear (year : Nat) : Nat :=
  if firstWeekday year = 3 ∨ (firstWeekday year = 2 ∧ isLeap year) then 53 else 52

end Calendar

/-- A day of the calendar. -/
structure Date where
  year : Nat
  month : Nat
  day : Nat
  exists_day : 1 ≤ year ∧ year ≤ 9999 ∧ 1 ≤ month ∧ month ≤ 12 ∧
    1 ≤ day ∧ day ≤ Calendar.daysInMonth year month
deriving DecidableEq

namespace Date

/-- The day with a year, month and day, if there is one. -/
def of? (year month day : Nat) : Option Date :=
  if h : 1 ≤ year ∧ year ≤ 9999 ∧ 1 ≤ month ∧ month ≤ 12 ∧
      1 ≤ day ∧ day ≤ Calendar.daysInMonth year month
  then some ⟨year, month, day, h⟩ else none

/-- The day with a year, week and day of the week, if there is one. -/
def ofWeek? (year week day : Nat) : Option Date :=
  if 1 ≤ year ∧ 1 ≤ week ∧ week ≤ Calendar.weeksInYear year ∧ 1 ≤ day ∧ day ≤ 7 then
    let number := Calendar.firstMonday year + ((week - 1) * 7 + (day - 1) : Nat)
    let (y, m, d) := Calendar.ofDayNumber number.toNat
    of? y m d
  else none

theorem of?_self (d : Date) : of? d.year d.month d.day = some d := by
  simp [of?, d.exists_day]

end Date

/-- A time of day with microseconds. -/
structure TimeOfDay where
  hour : Nat
  minute : Nat
  second : Nat
  microsecond : Nat
  exists_time : hour < 24 ∧ minute < 60 ∧ second < 60 ∧ microsecond < 1000000
deriving DecidableEq

namespace TimeOfDay

/-- The time with the given parts, if there is one. -/
def of? (hour minute second microsecond : Nat) : Option TimeOfDay :=
  if h : hour < 24 ∧ minute < 60 ∧ second < 60 ∧ microsecond < 1000000
  then some ⟨hour, minute, second, microsecond, h⟩ else none

/-- The start of a day. -/
def midnight : TimeOfDay :=
  ⟨0, 0, 0, 0, by decide⟩

theorem of?_self (t : TimeOfDay) : of? t.hour t.minute t.second t.microsecond = some t := by
  simp [of?, t.exists_time]

end TimeOfDay

/-- The distance of a local time from universal time, in microseconds: none, or
at least a second and less than a day, east or west. -/
structure Offset where
  microseconds : Int
  within_day : microseconds.natAbs < 86400000000
  zero_or_second : microseconds = 0 ∨ 1000000 ≤ microseconds.natAbs
deriving DecidableEq

namespace Offset

/-- Universal time. -/
def utc : Offset :=
  ⟨0, by decide, Or.inl rfl⟩

/-- The offset of some seconds and microseconds, east or west, if there is one.
Microseconds without a second are dropped. -/
def of? (west : Bool) (seconds microseconds : Nat) : Option Offset :=
  if seconds = 0 then some utc
  else
    let total := seconds * 1000000 + microseconds
    let signed : Int := if west then -(total : Int) else total
    if h : signed.natAbs < 86400000000 ∧ (signed = 0 ∨ 1000000 ≤ signed.natAbs)
    then some ⟨signed, h.1, h.2⟩ else none

end Offset

/-- A moment as a document writes it: a date, a time, and the offset of its
clock if that is known. -/
structure Timestamp where
  date : Date
  time : TimeOfDay
  offset? : Option Offset
deriving DecidableEq

end TicketFlow
