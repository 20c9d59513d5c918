import TicketFlow.Json.Fault
import TicketFlow.Value.Basic
import TicketFlow.Text.Quoted

/-!
# Writing a JSON text

Values are written over several lines. Each item of a container stands on a
line of its own, indented by its depth, and an empty container is a pair of
brackets. Only the quote, the backslash and the control characters of a string
are escaped. The form is put together from pieces, so that nothing is copied once
for each container around it.
-/

namespace TicketFlow.Json

/-- What stands for one character of a string. -/
def escapedChar (c : Char) : List Char :=
  match c with
  | '\x22' => ['\x5c', '\x22']
  | '\x5c' => ['\x5c', '\x5c']
  | '\n' => ['\x5c', 'n']
  | '\r' => ['\x5c', 'r']
  | '\t' => ['\x5c', 't']
  | '\x08' => ['\x5c', 'b']
  | '\x0c' => ['\x5c', 'f']
  | c => if c.toNat < 0x20 then '\x5c' :: 'u' :: Text.hexadecimal 4 c.toNat else [c]

/-- The written form of a string. -/
def writeString (s : String) : String :=
  String.ofList ('\x22' :: s.toList.flatMap escapedChar ++ ['\x22'])

/-- The written form of a number. The doubles that are not finite have names. -/
def writeNumber : Number → String
  | .double .nan => "NaN"
  | .double (.infinite s) => (if s then "-" else "") ++ "Infinity"
  | n => n.display

/-- A line feed and the indentation of a depth. -/
def newline (indent depth : Nat) : String :=
  String.ofList ('\n' :: List.replicate (indent * depth) ' ')

mutual

/-- The pieces of the written form of a value at a depth, followed by further ones. -/
def pieces (indent depth : Nat) (v : Value) (more : List String) : List String :=
  match v with
  | .null => "null" :: more
  | .bool b => (if b then "true" else "false") :: more
  | .number n => writeNumber n :: more
  | .string s => writeString s :: more
  | .array [] => "[]" :: more
  | .array (v :: rest) =>
    "[" :: newline indent (depth + 1) ::
      pieces indent (depth + 1) v
        (itemPieces indent (depth + 1) rest (newline indent depth :: "]" :: more))
  | .object [] => "\x7b\x7d" :: more
  | .object ((k, v) :: rest) =>
    "\x7b" :: newline indent (depth + 1) :: writeString k :: ": " ::
      pieces indent (depth + 1) v
        (fieldPieces indent (depth + 1) rest (newline indent depth :: "\x7d" :: more))

/-- The pieces of the items of an array after the first one. -/
def itemPieces (indent depth : Nat) (items : List Value) (more : List String) : List String :=
  match items with
  | [] => more
  | v :: rest =>
    "," :: newline indent depth :: pieces indent depth v (itemPieces indent depth rest more)

/-- The pieces of the fields of an object after the first one. -/
def fieldPieces (indent depth : Nat) (fields : List (String × Value)) (more : List String) :
    List String :=
  match fields with
  | [] => more
  | (k, v) :: rest =>
    "," :: newline indent depth :: writeString k :: ": " ::
      pieces indent depth v (fieldPieces indent depth rest more)

end

/-- The written form of a value, each depth indented by a number of blanks; with a
negative number there is no indentation. -/
def write (indent : Int) (v : Value) : String :=
  String.join (pieces indent.toNat 0 v [])

end TicketFlow.Json
