import TicketFlow.Time.Calendar

/-!
# The text of a timestamp

A timestamp is written as date, the letter `T` and time, with six digits of
microseconds only when there are any, and with the offset of its clock if that
is known. The offset has seconds and microseconds only when it needs them, and
`Z` stands for its first part when that would be `+00:00`.

The reader accepts more. It works on the bytes of the text; a byte beyond the
end counts as zero. First the length of the date is settled from a few bytes,
then the date is read from the start and the time from behind the separator,
which may be any single character.
-/

namespace TicketFlow.Timestamp

-- Powers are those of plain numbers, also where monoids have powers.
attribute [local instance (high)] instPowNat

/-- A number in decimal, padded with zeros to a width. -/
def padded (width n : Nat) : String :=
  let digits := Nat.toDigits 10 n
  String.ofList (List.replicate (width - digits.length) '0' ++ digits)

/-- Microseconds with a point in front, if there are any. -/
def fractionText (microsecond : Nat) : String :=
  if microsecond = 0 then "" else "." ++ padded 6 microsecond

/-- The text of a date. -/
def dateText (d : Date) : String :=
  padded 4 d.year ++ "-" ++ padded 2 d.month ++ "-" ++ padded 2 d.day

/-- The text of a time of day. -/
def timeText (t : TimeOfDay) : String :=
  padded 2 t.hour ++ ":" ++ padded 2 t.minute ++ ":" ++ padded 2 t.second ++
    fractionText t.microsecond

/-- The text of an offset. -/
def offsetText (o : Offset) : String :=
  let total := o.microseconds.natAbs
  let seconds := total / 1000000
  let micros := total % 1000000
  let (hour, minute, second) := (seconds / 3600, seconds / 60 % 60, seconds % 60)
  let short :=
    if 0 ≤ o.microseconds ∧ hour = 0 ∧ minute = 0 then "Z"
    else (if o.microseconds < 0 then "-" else "+") ++ padded 2 hour ++ ":" ++ padded 2 minute
  if second = 0 ∧ micros = 0 then short
  else short ++ ":" ++ padded 2 second ++ fractionText micros

/-- The text of a timestamp. -/
def text (t : Timestamp) : String :=
  dateText t.date ++ "T" ++ timeText t.time ++ (t.offset?.map offsetText).getD ""

/-- The bytes of a text, each `Z` written out as the offset it stands for. -/
def bytes (text : String) : List UInt8 :=
  (text.toList.flatMap fun c => if c = 'Z' then "+00:00".toList else [c]).flatMap
    String.utf8EncodeChar

/-- The byte at a position. -/
def byteAt (b : List UInt8) (p : Nat) : UInt8 :=
  b.getD p 0

/-- The byte of an ASCII character. -/
def ascii (c : Char) : UInt8 :=
  c.toNat.toUInt8

/-- Whether a byte is a decimal digit. -/
def isDigit (u : UInt8) : Bool :=
  ascii '0' ≤ u && u ≤ ascii '9'

/-- The number that exactly `count` digits at a position write. -/
def digitsAt (b : List UInt8) (p count : Nat) : Option Nat :=
  let window := (List.range count).map fun i => byteAt b (p + i)
  if window.all isDigit then some (window.foldl (fun n u => 10 * n + (u.toNat - 48)) 0) else none

/-- The first position from `p` on that holds no digit. -/
def skipDigits (b : List UInt8) (p : Nat) : Nat :=
  p + ((b.drop p).takeWhile isDigit).length

/-- The position of the separator between date and time, settled from the length
of the text and from its fifth, sixth, ninth and eleventh byte. -/
def separator? (b : List UInt8) : Option Nat :=
  let n := b.length
  let isDash (p : Nat) : Bool := byteAt b p == ascii '-'
  if n < 7 then none
  else if n = 7 then some 7
  else if isDash 4 then
    if byteAt b 5 = ascii 'W' then
      if 8 < n ∧ isDash 8 then
        if n = 9 then none
        else if 10 < n ∧ isDigit (byteAt b 10) then some 8
        else some 10
      else some 8
    else some 10
  else if byteAt b 4 = ascii 'W' then
    let p := skipDigits b 7
    if p < 9 then some p else if p % 2 = 0 then some 7 else some 8
  else some 8

/-- Read the date before a separator. -/
def readDate (b : List UInt8) (separator : Nat) : Option Date := do
  let isDash (p : Nat) : Bool := byteAt b p == ascii '-'
  let year ← digitsAt b 0 4
  let dashed := isDash 4
  let p := if dashed then 5 else 4
  if byteAt b p = ascii 'W' then
    let week ← digitsAt b (p + 1) 2
    let p := p + 3
    if p < separator then
      if dashed && !isDash p then none
      else
        let day ← digitsAt b (if dashed then p + 1 else p) 1
        Date.ofWeek? year week day
    else Date.ofWeek? year week 1
  else
    let month ← digitsAt b p 2
    let p := p + 2
    if dashed && !isDash p then none
    else
      let day ← digitsAt b (if dashed then p + 1 else p) 2
      Date.of? year month day

/-- Hours, minutes, seconds and microseconds as they were read, not yet checked
against their ranges, and whether the text ended with them. -/
structure Clock where
  hour : Nat
  minute : Nat
  second : Nat
  microsecond : Nat
  ended : Bool

namespace Clock

/-- A clock with some of the leading parts given. -/
def ofParts (parts : List Nat) (microsecond : Nat) (ended : Bool) : Clock :=
  ⟨parts.getD 0 0, parts.getD 1 0, parts.getD 2 0, microsecond, ended⟩

/-- Read the fraction of a second at a position: up to six digits before `stop`
count, and all further digits are passed over. -/
def readFraction (b : List UInt8) (p stop : Nat) (parts : List Nat) : Option Clock := do
  let count := min 6 (stop - p)
  let digits ← digitsAt b p count
  let next := skipDigits b (p + count)
  return ofParts parts (digits * 10 ^ (6 - count)) (byteAt b next == 0)

/-- Read up to `left` further parts of two digits each. Whether colons divide the
parts is decided by the byte behind the first one, and a point or a comma leads
over to the fraction. -/
def readParts (b : List UInt8) (stop : Nat) :
    (left p : Nat) → (colons? : Option Bool) → (parts : List Nat) → Option Clock
  | 0, p, _, parts => readFraction b p stop parts
  | left + 1, p, colons?, parts => do
    let part ← digitsAt b p 2
    let next := byteAt b (p + 2)
    let colons := colons?.getD (next == ascii ':')
    let parts := parts ++ [part]
    if stop ≤ p + 3 then return ofParts parts 0 (next == 0)
    else if colons && next == ascii ':' then readParts b stop left (p + 3) (some colons) parts
    else if next = ascii '.' ∨ next = ascii ',' then readFraction b (p + 3) stop parts
    else if colons then none
    else readParts b stop left (p + 2) (some colons) parts

/-- Read a clock between two positions. -/
def read (b : List UInt8) (start stop : Nat) : Option Clock :=
  readParts b stop 3 start none []

end Clock

/-- The number of bytes of the character that starts with a byte. -/
def characterWidth (u : UInt8) : Nat :=
  if u < 0x80 then 1
  else if u >>> 4 = 0xe then 3
  else if u >>> 4 = 0xf then 4
  else 2

/-- The position of the sign of an offset from `p` on. Without a sign it lies
behind the end. -/
def zonePosition (b : List UInt8) (p : Nat) : Nat :=
  let isSign (u : UInt8) : Bool := u == ascii '+' || u == ascii '-'
  match (b.drop p).findIdx? isSign with
  | some i => p + i
  | none => max b.length (p + 1)

/-- Read the offset behind the sign at a position. -/
def readOffset (b : List UInt8) (p : Nat) : Option Offset := do
  let clock ← Clock.read b (p + 1) b.length
  if clock.ended then
    Offset.of? (byteAt b p == ascii '-')
      (clock.hour * 3600 + clock.minute * 60 + clock.second) clock.microsecond
  else none

/-- Read a time and an offset, if there is one, from a position on. -/
def readTime (b : List UInt8) (p : Nat) : Option (TimeOfDay × Option Offset) := do
  let zone := zonePosition b p
  let clock ← Clock.read b p zone
  let offset? ←
    if b.length ≤ zone then
      if clock.ended then some none else none
    else (readOffset b zone).map some
  let time ← TimeOfDay.of? clock.hour clock.minute clock.second clock.microsecond
  return (time, offset?)

/-- Read a timestamp from bytes. -/
def ofBytes? (b : List UInt8) : Option Timestamp := do
  let separator ← separator? b
  let date ← readDate b separator
  if separator < b.length then
    let (time, offset?) ← readTime b (separator + characterWidth (byteAt b separator))
    return ⟨date, time, offset?⟩
  else return ⟨date, .midnight, none⟩

/-- Read a timestamp. -/
def ofText? (text : String) : Option Timestamp :=
  ofBytes? (bytes text)

end TicketFlow.Timestamp
