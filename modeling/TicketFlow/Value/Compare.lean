import TicketFlow.Value.Basic

/-!
# Comparing values

Two values are the same when they are equal as far as their kinds allow: numbers
by their place, a truth value as one or zero, objects without regard to the order
of their fields. This is the equality by which contents are found under values,
and only values without parts can serve that way.
-/

namespace TicketFlow.Value

/-- Whether a value is an array or an object. Such a value cannot serve as a key. -/
def isContainer : Value → Bool
  | .array _ => true
  | .object _ => true
  | _ => false

mutual

/-- Whether two values are equal, whatever their kinds. -/
def same : Value → Value → Bool
  | .null, w => match w with
    | .null => true
    | _ => false
  | .bool b, w => w.quantity?.any fun n => Number.same (if b then 1 else 0) n
  | .number m, w => w.quantity?.any m.same
  | .string s, w => match w with
    | .string t => s == t
    | _ => false
  | .array xs, w => match w with
    | .array ys => sameItems xs ys
    | _ => false
  | .object fs, w => match w with
    | .object gs => fs.length == gs.length && sameFields fs gs
    | _ => false

/-- Whether two lists have the same items. -/
def sameItems : List Value → List Value → Bool
  | [], ys => ys.isEmpty
  | x :: xs, ys => match ys with
    | [] => false
    | y :: ys => x.same y && sameItems xs ys

/-- Whether the fields of one object are found in another. -/
def sameFields : List (String × Value) → List (String × Value) → Bool
  | [], _ => true
  | (k, v) :: rest, gs =>
    (match Table.lookup k gs with
      | some w => v.same w
      | none => false) && sameFields rest gs

end

@[simp] theorem same_string (s t : String) : (string s).same (.string t) = (s == t) := by
  simp [same]

/-- The text of a key in a document, where every key is a text. -/
def keyText : Value → String
  | .null => "null"
  | .bool b => if b then "true" else "false"
  | .number n => n.display
  | .string s => s
  | _ => ""

/-- The name of the kind of a value in messages. -/
def kindName : Value → String
  | .null => "NoneType"
  | .bool _ => "bool"
  | .number (.int _) => "int"
  | .number (.double _) => "float"
  | .string _ => "str"
  | .array _ => "list"
  | .object _ => "dict"

end TicketFlow.Value
