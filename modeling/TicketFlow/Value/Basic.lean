import TicketFlow.Number.Basic
import TicketFlow.Table

/-!
# Document values

A document is a tree of values. The fields of an object keep the order in which
they were written, and each key occurs once: the readers build them with
`Table.setEntry`, which gives a repeated key the place of its first occurrence
and the content of its last one.
-/

namespace TicketFlow

/-- A value of a document. -/
inductive Value where
  | null
  | bool (b : Bool)
  | number (n : Number)
  | string (s : String)
  | array (items : List Value)
  | object (fields : List (String × Value))
deriving Inhabited, Repr

namespace Value

/-- The fields of an object; any other value has none. -/
def fields : Value → List (String × Value)
  | .object fs => fs
  | _ => []

/-- The items of an array; any other value has none. -/
def items : Value → List Value
  | .array xs => xs
  | _ => []

/-- The content of a field of an object. -/
def get? (v : Value) (key : String) : Option Value :=
  Table.lookup key v.fields

/-- The values that a list-like value goes through: an array through its items, a
text through its characters and an object through its keys. Any other value goes
through nothing. -/
def elements? : Value → Option (List Value)
  | .array xs => some xs
  | .string s => some (s.toList.map fun c => .string (String.singleton c))
  | .object fs => some (fs.map fun f => .string f.1)
  | _ => none

/-- The text, if the value is one. -/
def asString? : Value → Option String
  | .string s => some s
  | _ => none

/-- The number, if the value is one. -/
def asNumber? : Value → Option Number
  | .number n => some n
  | _ => none

/-- The number that a value counts as; truth values count as one and zero. -/
def quantity? : Value → Option Number
  | .number n => some n
  | .bool b => some (if b then 1 else 0)
  | _ => none

/-- The truth value, if the value is one. -/
def asBool? : Value → Option Bool
  | .bool b => some b
  | _ => none

/-- Whether a value counts as present: `null`, `false`, zero, and whatever is
empty do not. -/
def isSet : Value → Bool
  | .null => false
  | .bool b => b
  | .number n => !n.isZero
  | .string s => s != ""
  | .array xs => !xs.isEmpty
  | .object fs => !fs.isEmpty

mutual

/-- How deep containers are nested in a value. -/
def depth : Value → Nat
  | .array items => depthOfItems items + 1
  | .object fields => depthOfFields fields + 1
  | _ => 0

/-- How deep containers are nested in the items of an array. -/
def depthOfItems : List Value → Nat
  | [] => 0
  | v :: rest => max v.depth (depthOfItems rest)

/-- How deep containers are nested in the fields of an object. -/
def depthOfFields : List (String × Value) → Nat
  | [] => 0
  | (_, v) :: rest => max v.depth (depthOfFields rest)

end

/-- An array of texts. -/
def texts (l : List String) : Value :=
  .array (l.map .string)

@[simp] theorem fields_object (fs : List (String × Value)) : (object fs).fields = fs := rfl

@[simp] theorem items_array (xs : List Value) : (array xs).items = xs := rfl

theorem asString?_eq_some_iff {v : Value} {s : String} : v.asString? = some s ↔ v = .string s := by
  cases v <;> simp [asString?]

theorem asNumber?_eq_some_iff {v : Value} {n : Number} : v.asNumber? = some n ↔ v = .number n := by
  cases v <;> simp [asNumber?]

theorem asBool?_eq_some_iff {v : Value} {b : Bool} : v.asBool? = some b ↔ v = .bool b := by
  cases v <;> simp [asBool?]

end Value

end TicketFlow
