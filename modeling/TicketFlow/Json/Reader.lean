import TicketFlow.Json.Scalar
import TicketFlow.Value.Basic

/-!
# Reading a JSON text

`read` accepts a text that holds exactly one value between blanks. Each step
returns the rest of the text together with the evidence that it is shorter, so
the mutual recursion through arrays and objects ends. Besides the standard
literals the three names of non-finite doubles are values, and a repeated key
keeps its first place and takes its last content. A reader has room for a number
of containers one inside the other, and refuses one that would be deeper.
-/

namespace TicketFlow.Json

/-- Space, tab, line feed and carriage return. -/
def isBlank (c : Char) : Bool :=
  c == ' ' || c == '\t' || c == '\n' || c == '\r'

/-- A text without its leading blanks. -/
def skipBlanks (s : List Char) : List Char :=
  s.dropWhile isBlank

theorem length_skipBlanks_le (s : List Char) : (skipBlanks s).length ≤ s.length :=
  (List.dropWhile_sublist _).length_le

theorem length_skipped_le {s r : List Char} (h : skipBlanks s = r) : r.length ≤ s.length :=
  h ▸ length_skipBlanks_le s

theorem length_skipped_lt {s r : List Char} {c : Char} (h : skipBlanks s = c :: r) :
    r.length < s.length :=
  length_skipped_le h

/-- Weaken the bound on the rest. -/
def Rest.widen {m n : Nat} (rest : Rest m) (h : m ≤ n) : Rest n :=
  ⟨rest.1, Nat.lt_of_lt_of_le rest.2 h⟩

/-- Read a numeral whose first character is `c`. -/
def readNumeral (c : Char) (rest : List Char) :
    Except Fault (Value × Rest (c :: rest).length) :=
  match Numeral.read? (c :: rest) with
  | none => .error ⟨.expectedValue, (c :: rest).length⟩
  | some numeral =>
    match numeral.value? with
    | none => .error ⟨.longNumeral, (c :: rest).length⟩
    | some n => .ok (.number n, ⟨rest.drop (numeral.width - 1), by
        rw [List.length_drop, List.length_cons]
        omega⟩)

/-- Read a value that is neither a string nor a container. -/
def readScalar (c : Char) (rest : List Char) :
    Except Fault (Value × Rest (c :: rest).length) :=
  match c, rest with
  | 'n', 'u' :: 'l' :: 'l' :: r => .ok (.null, ⟨r, length_lt_behind 'n' ['u', 'l', 'l'] r⟩)
  | 't', 'r' :: 'u' :: 'e' :: r => .ok (.bool true, ⟨r, length_lt_behind 't' ['r', 'u', 'e'] r⟩)
  | 'f', 'a' :: 'l' :: 's' :: 'e' :: r =>
    .ok (.bool false, ⟨r, length_lt_behind 'f' ['a', 'l', 's', 'e'] r⟩)
  | 'N', 'a' :: 'N' :: r =>
    .ok (.number (.double .nan), ⟨r, length_lt_behind 'N' ['a', 'N'] r⟩)
  | 'I', 'n' :: 'f' :: 'i' :: 'n' :: 'i' :: 't' :: 'y' :: r =>
    .ok (.number (.double (.infinite false)),
      ⟨r, length_lt_behind 'I' ['n', 'f', 'i', 'n', 'i', 't', 'y'] r⟩)
  | '-', 'I' :: 'n' :: 'f' :: 'i' :: 'n' :: 'i' :: 't' :: 'y' :: r =>
    .ok (.number (.double (.infinite true)),
      ⟨r, length_lt_behind '-' ['I', 'n', 'f', 'i', 'n', 'i', 't', 'y'] r⟩)
  | c, rest => readNumeral c rest

/-- Read a key and the colon after it, up to the start of the content. -/
def readKey (s : List Char) : Except Fault (String × Rest s.length) :=
  match s with
  | '\x22' :: r =>
    match readString (r.length + 1) r.length r [] (Nat.le_refl _) with
    | .error fault => .error fault
    | .ok (key, ⟨rest, h⟩) =>
      match hs : skipBlanks rest with
      | ':' :: r' => .ok (key, ⟨skipBlanks r',
          Nat.lt_of_le_of_lt (length_skipBlanks_le r')
            (Nat.lt_trans (length_skipped_lt hs) (Nat.lt_succ_of_lt h))⟩)
      | other => .error ⟨.expectedColon, other.length⟩
  | other => .error ⟨.expectedName, other.length⟩

mutual

/-- Read one value at the start of a text, with room for a number of nested
containers. -/
def readValue (room : Nat) (s : List Char) : Except Fault (Value × Rest s.length) :=
  match s with
  | [] => .error ⟨.expectedValue, 0⟩
  | '\x22' :: r =>
    match readString (r.length + 1) r.length r [] (Nat.le_refl _) with
    | .error fault => .error fault
    | .ok (text, rest) => .ok (.string text, rest.widen (Nat.le_succ _))
  | '[' :: r =>
    if room = 0 then .error ⟨.deepNesting, r.length + 1⟩ else
    match hs : skipBlanks r with
    | ']' :: rest => .ok (.array [], ⟨rest, Nat.lt_succ_of_lt (length_skipped_lt hs)⟩)
    | first :: others =>
      have hr : (first :: others).length < ('[' :: r).length :=
        Nat.lt_succ_of_le (length_skipped_le hs)
      match readItems (room - 1) (first :: others) [] with
      | .error fault => .error fault
      | .ok (items, rest) => .ok (.array items, rest.widen (Nat.le_of_lt hr))
    | [] => .error ⟨.expectedValue, 0⟩
  | '\x7b' :: r =>
    if room = 0 then .error ⟨.deepNesting, r.length + 1⟩ else
    match hs : skipBlanks r with
    | '\x7d' :: rest => .ok (.object [], ⟨rest, Nat.lt_succ_of_lt (length_skipped_lt hs)⟩)
    | first :: others =>
      have hr : (first :: others).length < ('\x7b' :: r).length :=
        Nat.lt_succ_of_le (length_skipped_le hs)
      match readFields (room - 1) (first :: others) [] with
      | .error fault => .error fault
      | .ok (fields, rest) => .ok (.object fields, rest.widen (Nat.le_of_lt hr))
    | [] => .error ⟨.expectedName, 0⟩
  | c :: r => readScalar c r
termination_by (s.length, 0)

/-- Read the items of an array up to its closing bracket. -/
def readItems (room : Nat) (s : List Char) (done : List Value) :
    Except Fault (List Value × Rest s.length) :=
  match readValue room s with
  | .error fault => .error fault
  | .ok (v, ⟨rest, h⟩) =>
    match hs : skipBlanks rest with
    | ']' :: r => .ok ((v :: done).reverse, ⟨r, Nat.lt_trans (length_skipped_lt hs) h⟩)
    | ',' :: r =>
      have hr : (skipBlanks r).length < s.length :=
        Nat.lt_of_le_of_lt (length_skipBlanks_le r) (Nat.lt_trans (length_skipped_lt hs) h)
      match readItems room (skipBlanks r) (v :: done) with
      | .error fault => .error fault
      | .ok (items, rest) => .ok (items, rest.widen (Nat.le_of_lt hr))
    | other => .error ⟨.expectedComma, other.length⟩
termination_by (s.length, 1)

/-- Read the fields of an object up to its closing brace. -/
def readFields (room : Nat) (s : List Char) (done : List (String × Value)) :
    Except Fault (List (String × Value) × Rest s.length) :=
  match readKey s with
  | .error fault => .error fault
  | .ok (key, ⟨content, hc⟩) =>
    match readValue room content with
    | .error fault => .error fault
    | .ok (v, ⟨rest, h⟩) =>
      match hs : skipBlanks rest with
      | '\x7d' :: r => .ok (Table.setEntry key v done, ⟨r,
          Nat.lt_trans (length_skipped_lt hs) (Nat.lt_trans h hc)⟩)
      | ',' :: r =>
        have hr : (skipBlanks r).length < s.length :=
          Nat.lt_of_le_of_lt (length_skipBlanks_le r)
            (Nat.lt_trans (length_skipped_lt hs) (Nat.lt_trans h hc))
        match readFields room (skipBlanks r) (Table.setEntry key v done) with
        | .error fault => .error fault
        | .ok (fields, rest) => .ok (fields, rest.widen (Nat.le_of_lt hr))
      | other => .error ⟨.expectedComma, other.length⟩
termination_by (s.length, 1)

end

/-- Read a text that holds one value, with room for a number of nested containers. -/
def readWithin (room : Nat) (text : List Char) : Except Fault Value :=
  if text.head? = some '\ufeff' then .error ⟨.byteOrderMark, text.length⟩
  else
    match readValue room (skipBlanks text) with
    | .error fault => .error fault
    | .ok (v, ⟨rest, _⟩) =>
      match skipBlanks rest with
      | [] => .ok v
      | other => .error ⟨.extraData, other.length⟩

/-- Read a text that holds one value. There is room for any nesting, since no text has
more containers than characters. -/
def read (text : String) : Except Fault Value :=
  readWithin text.length text.toList

end TicketFlow.Json
