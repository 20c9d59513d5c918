import TicketFlow.Time.Calendar

/-!
# Clock readings

A clock that counts from the start of 1970 in universal time is read as a
timestamp with the offset of universal time.
-/

namespace TicketFlow.Timestamp

/-- The number of the first day of 1970. -/
def unixDay : Nat := 719163

/-- The timestamp of a number of microseconds after the start of 1970, if its year is
one of the calendar. -/
def ofUnixMicroseconds? (n : Nat) : Option Timestamp := do
  let seconds := n / 1000000
  let (year, month, day) := Calendar.ofDayNumber (unixDay + seconds / 86400)
  let date ← Date.of? year month day
  let time ← TimeOfDay.of? (seconds / 3600 % 24) (seconds / 60 % 60) (seconds % 60) (n % 1000000)
  return ⟨date, time, some .utc⟩

end TicketFlow.Timestamp
