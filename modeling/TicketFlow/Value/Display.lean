import TicketFlow.Value.Basic
import TicketFlow.Text.Quoted

/-!
# Values in messages

A message shows the offending value on one line: containers in brackets with a
comma and a blank between their parts, text quoted, and the three constants
capitalised. `display` shows a bare text without its quotes; text inside a
container is quoted in both forms.
-/

namespace TicketFlow.Value

/-- Lay the shown parts of a container out between its brackets. -/
def bracketed (opening closing : String) (parts : List String) : String :=
  opening ++ ", ".intercalate parts ++ closing

mutual

/-- The shown form of a value. -/
def shown : Value → String
  | .null => "None"
  | .bool b => if b then "True" else "False"
  | .number n => n.display
  | .string s => Text.quoted s
  | .array items => bracketed "[" "]" (shownItems items)
  | .object fields => bracketed "\x7b" "\x7d" (shownFields fields)

/-- The shown items of an array. -/
def shownItems : List Value → List String
  | [] => []
  | v :: rest => v.shown :: shownItems rest

/-- The shown fields of an object. -/
def shownFields : List (String × Value) → List String
  | [] => []
  | (k, v) :: rest => (Text.quoted k ++ ": " ++ v.shown) :: shownFields rest

end

/-- The shown form of a value, a bare text without quotes. -/
def display : Value → String
  | .string s => s
  | v => v.shown

theorem shownItems_eq_map (items : List Value) : shownItems items = items.map shown := by
  induction items with
  | nil => rfl
  | cons v rest ih => simp [shownItems, ih]

theorem shownFields_eq_map (fields : List (String × Value)) :
    shownFields fields = fields.map fun f => Text.quoted f.1 ++ ": " ++ f.2.shown := by
  induction fields with
  | nil => rfl
  | cons f rest ih =>
    obtain ⟨k, v⟩ := f
    simp [shownFields, ih]

end TicketFlow.Value
