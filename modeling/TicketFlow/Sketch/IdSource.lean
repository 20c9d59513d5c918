import TicketFlow.Repair.Basic
import TicketFlow.Sketch.Basic

/-!
# Sources of ids

Ids that are given out need not be texts: a source begins with any values that it is
given and goes on with texts. Both supplies that are made of a source start behind
the ids that are taken.
-/

namespace TicketFlow

/-- A supply of texts as one of values. -/
def IdSupply.asValues (s : IdSupply String) : IdSupply Value :=
  ⟨fun i => .string (s.ids i), s.drawn⟩

/-- Where ids come from: some given values, then texts for the numbers from one on.
The first ids are taken. -/
structure IdSource where
  given : List Value
  counted : Nat → String
  drawn : Nat

namespace IdSource

/-- A source of some given values and of the texts that a stem makes. -/
def ofStem (given : List Value) (stem : String) : IdSource :=
  ⟨given, stemmedId stem, 0⟩

/-- The source after a number of ids was taken. -/
def drop (s : IdSource) (count : Nat) : IdSource :=
  { s with drawn := s.drawn + count }

/-- The supply of all ids, whatever they are. -/
def values (s : IdSource) : IdSupply Value :=
  (IdSupply.ofList s.given fun n => .string (s.counted n)).drop s.drawn

/-- The supply of ids, if all of them are texts. -/
def texts? (s : IdSource) : Option (IdSupply String) := do
  return (IdSupply.ofList (← s.given.mapM Value.asString?) s.counted).drop s.drawn

/-- When all ids are texts, the supply of all ids gives out those texts. -/
theorem values_of_texts? {s : IdSource} {texts : IdSupply String} (h : s.texts? = some texts) :
    s.values = texts.asValues := by
  obtain ⟨given, read, found⟩ := Option.bind_eq_some_iff.mp h
  have written : s.given = given.map .string :=
    (mapM_eq_some_iff fun _ _ => Value.asString?_eq_some_iff).mp read
  cases found
  simp only [values, written, IdSupply.ofList, IdSupply.drop, IdSupply.asValues,
    List.length_map, List.getD_eq_getElem?_getD, List.getElem?_map, Option.getD_map]

end IdSource

end TicketFlow
