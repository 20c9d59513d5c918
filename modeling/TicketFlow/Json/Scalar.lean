import TicketFlow.Json.Fault
import TicketFlow.Number.Basic

/-!
# Numerals and strings of a JSON text

A numeral is an optional minus sign, a whole part without needless zeros, and
optionally a fraction and an exponent, each with at least one digit; what does
not continue a numeral is left for the caller. With a fraction or an exponent it
is a double, else a whole number. A string ends at the first quote that is not
escaped, and an escaped pair of surrogates stands for one character.
-/

namespace TicketFlow.Json

/-- What remains of a text after something was read from it. -/
abbrev Rest (bound : Nat) := { rest : List Char // rest.length < bound }

/-- The number that a list of decimal digits writes. -/
def digitsValue (digits : List Char) : Nat :=
  digits.foldl (fun n c => 10 * n + (c.toNat - '0'.toNat)) 0

/-- The parts of a numeral. -/
structure Numeral where
  negative : Bool
  whole : List Char
  fraction : List Char
  /-- The sign and the digits of the exponent, if it has one. -/
  exponent : Option (Bool × List Char)
  /-- The number of characters that the numeral takes. -/
  width : Nat

namespace Numeral

/-- Read a fraction: its digits and its width, both empty if there is none. -/
def readFraction : List Char → List Char × Nat
  | '.' :: rest =>
    let digits := rest.takeWhile Char.isDigit
    if digits.isEmpty then ([], 0) else (digits, digits.length + 1)
  | _ => ([], 0)

/-- Read an exponent and its width. -/
def readExponent : List Char → Option (Bool × List Char) × Nat
  | [] => (none, 0)
  | e :: rest =>
    if e = 'e' ∨ e = 'E' then
      let (negative, skipped) : Bool × Nat := match rest with
        | '-' :: _ => (true, 1)
        | '+' :: _ => (false, 1)
        | _ => (false, 0)
      let digits := (rest.drop skipped).takeWhile Char.isDigit
      if digits.isEmpty then (none, 0)
      else (some (negative, digits), digits.length + skipped + 1)
    else (none, 0)

/-- Read the longest numeral that a text starts with. -/
def read? (s : List Char) : Option Numeral :=
  let negative := s.head? == some '-'
  let signWidth := if negative then 1 else 0
  let body := s.drop signWidth
  let whole :=
    if body.head? = some '0' then ['0'] else body.takeWhile Char.isDigit
  if whole.isEmpty then none
  else
    let (fraction, fractionWidth) := readFraction (body.drop whole.length)
    let (exponent, exponentWidth) := readExponent (body.drop (whole.length + fractionWidth))
    some ⟨negative, whole, fraction, exponent,
      signWidth + whole.length + fractionWidth + exponentWidth⟩

/-- A numeral without fraction and exponent is a whole number. -/
def isWhole (n : Numeral) : Bool :=
  n.fraction.isEmpty && n.exponent.isNone

/-- The most digits that a whole number may have. -/
def maxDigits : Nat := 4300

/-- The number that a numeral writes. A whole number of too many digits is refused. -/
def value? (n : Numeral) : Option Number :=
  if n.isWhole then
    if maxDigits < n.whole.length then none
    else some (.int (Double.signed n.negative (digitsValue n.whole)))
  else
    let scale : Int := match n.exponent with
      | some (negative, digits) => Double.signed negative (digitsValue digits)
      | none => 0
    some (.double (Double.ofDecimal n.negative (digitsValue (n.whole ++ n.fraction))
      (scale - n.fraction.length)))

end Numeral

/-- The value of a hexadecimal digit. -/
def hexDigit? (c : Char) : Option Nat :=
  if '0' ≤ c ∧ c ≤ '9' then some (c.toNat - '0'.toNat)
  else if 'a' ≤ c ∧ c ≤ 'f' then some (c.toNat - 'a'.toNat + 10)
  else if 'A' ≤ c ∧ c ≤ 'F' then some (c.toNat - 'A'.toNat + 10)
  else none

/-- The value of four hexadecimal digits. -/
def hexUnit? (a b c d : Char) : Option Nat := do
  let a ← hexDigit? a
  let b ← hexDigit? b
  let c ← hexDigit? c
  let d ← hexDigit? d
  return ((a * 16 + b) * 16 + c) * 16 + d

/-- The character of a short escape. -/
def shortEscape? (c : Char) : Option Char :=
  match c with
  | '\x22' => some '\x22'
  | '\x5c' => some '\x5c'
  | '/' => some '/'
  | 'b' => some '\x08'
  | 'f' => some '\x0c'
  | 'n' => some '\n'
  | 'r' => some '\r'
  | 't' => some '\t'
  | _ => none

/-- The character of a code unit; a surrogate by itself has none and is replaced. -/
def unitChar (n : Nat) : Char :=
  if 0xd800 ≤ n ∧ n < 0xe000 then '\ufffd' else Char.ofNat n

/-- A text is shorter than itself behind a character and a word. -/
theorem length_lt_behind (c : Char) (word s : List Char) :
    s.length < (c :: (word ++ s)).length := by
  rw [List.length_cons, List.length_append]
  omega

/-- Read on behind the escape of a high surrogate. The escape of a low one completes the
character, and without it the high one stands by itself. -/
def readPair (high : Nat) (s : List Char) :
    Except Fault (Char × Rest (s.length + 1)) :=
  match s with
  | '\x5c' :: 'u' :: a :: b :: c :: d :: next :: rest =>
    match hexUnit? a b c d with
    | none => .error ⟨.badCodeEscape, rest.length + 6⟩
    | some low =>
      if 0xdc00 ≤ low ∧ low < 0xe000 then
        let code := 0x10000 + (high - 0xd800) * 0x400 + (low - 0xdc00)
        .ok (Char.ofNat code,
          ⟨next :: rest,
            Nat.lt_succ_of_lt (length_lt_behind '\x5c' ['u', a, b, c, d] (next :: rest))⟩)
      else .ok (unitChar high, ⟨_, Nat.lt_succ_self _⟩)
  | s => .ok (unitChar high, ⟨s, Nat.lt_succ_self _⟩)

/-- Read one character of a string, or its closing quote. `opening` is the number of
characters from the opening quote to the end of the text. Four hexadecimal digits
must be followed by something. -/
def readPiece (opening : Nat) (s : List Char) : Except Fault (Option Char × Rest s.length) :=
  match s with
  | [] => .error ⟨.unterminatedString, opening⟩
  | '\x22' :: rest => .ok (none, ⟨rest, Nat.lt_succ_self _⟩)
  | '\x5c' :: [] => .error ⟨.unterminatedString, opening⟩
  | '\x5c' :: 'u' :: a :: b :: c :: d :: next :: rest =>
    have behind := length_lt_behind '\x5c' ['u', a, b, c, d] (next :: rest)
    match hexUnit? a b c d with
    | none => .error ⟨.badCodeEscape, rest.length + 6⟩
    | some n =>
      if 0xd800 ≤ n ∧ n < 0xdc00 then
        match readPair n (next :: rest) with
        | .error fault => .error fault
        | .ok (character, ⟨others, shorter⟩) =>
          .ok (some character, ⟨others, Nat.lt_of_le_of_lt (Nat.le_of_lt_succ shorter) behind⟩)
      else .ok (some (unitChar n), ⟨next :: rest, behind⟩)
  | '\x5c' :: 'u' :: rest => .error ⟨.badCodeEscape, rest.length + 1⟩
  | '\x5c' :: c :: rest =>
    match shortEscape? c with
    | some e => .ok (some e, ⟨rest, length_lt_behind '\x5c' [c] rest⟩)
    | none => .error ⟨.badEscape, rest.length + 2⟩
  | c :: rest =>
    if c.toNat < 0x20 then .error ⟨.controlCharacter, rest.length + 1⟩
    else .ok (some c, ⟨rest, Nat.lt_succ_self _⟩)

/-- Read a string after its opening quote, with the characters read so far in reverse. -/
def readString (opening bound : Nat) (s : List Char) (done : List Char)
    (h : s.length ≤ bound) : Except Fault (String × Rest bound) :=
  match readPiece opening s with
  | .error fault => .error fault
  | .ok (none, ⟨rest, shorter⟩) =>
    .ok (String.ofList done.reverse, ⟨rest, Nat.lt_of_lt_of_le shorter h⟩)
  | .ok (some c, ⟨rest, shorter⟩) =>
    readString opening bound rest (c :: done) (Nat.le_trans (Nat.le_of_lt shorter) h)
termination_by s.length
decreasing_by exact shorter

end TicketFlow.Json
