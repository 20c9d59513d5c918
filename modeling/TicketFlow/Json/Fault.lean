/-!
# Faults of a JSON text

A fault names what was found wrong and how much of the text remained there. The
message turns that into an offset, a line and a column, counting lines by line
feeds.
-/

namespace TicketFlow.Json

/-- What is wrong with a text. -/
inductive Cause where
  | expectedValue
  | expectedName
  | expectedColon
  | expectedComma
  | extraData
  | unterminatedString
  | controlCharacter
  | badEscape
  | badCodeEscape
  | byteOrderMark
  | longNumeral
  | deepNesting
deriving DecidableEq, Repr

/-- A cause, and the number of characters from the fault to the end. -/
structure Fault where
  cause : Cause
  remaining : Nat
deriving DecidableEq, Repr

/-- The wording of a cause. -/
def Cause.message : Cause → String
  | .expectedValue => "Expecting value"
  | .expectedName => "Expecting property name enclosed in double quotes"
  | .expectedColon => "Expecting ':' delimiter"
  | .expectedComma => "Expecting ',' delimiter"
  | .extraData => "Extra data"
  | .unterminatedString => "Unterminated string starting at"
  | .controlCharacter => "Invalid control character at"
  | .badEscape => "Invalid \\escape"
  | .badCodeEscape => "Invalid \\uXXXX escape"
  | .byteOrderMark => "Unexpected UTF-8 BOM (decode using utf-8-sig)"
  | .longNumeral => "Numeral with too many digits"
  | .deepNesting => "Nesting too deep"

namespace Fault

/-- The number of characters before the fault. -/
def offset (fault : Fault) (text : List Char) : Nat :=
  text.length - fault.remaining

/-- The line of an offset, from one. -/
def line (text : List Char) (offset : Nat) : Nat :=
  (text.take offset).count '\n' + 1

/-- The column of an offset, from one: its distance to the last line feed before it. -/
def column (text : List Char) (offset : Nat) : Nat :=
  ((text.take offset).reverse.takeWhile (· ≠ '\n')).length + 1

/-- The wording of a fault, with its place in the text. -/
def message (fault : Fault) (text : List Char) : String :=
  let place := fault.offset text
  fault.cause.message ++ ": line " ++ toString (line text place) ++
    " column " ++ toString (column text place) ++ " (char " ++ toString place ++ ")"

end Fault

end TicketFlow.Json
