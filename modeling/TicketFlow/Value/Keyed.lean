import TicketFlow.Traversal
import TicketFlow.Value.Compare

/-!
# Contents under values

An association list whose keys are values, looked up by `Value.same`. As in a
table, `put` gives a known key its new content where it stands and appends an
unknown one, and a known key keeps the form in which it came first.
-/

namespace TicketFlow

universe u v

/-- Contents under values, in the order in which the keys came. -/
abbrev Keyed (α : Type u) := List (Value × α)

namespace Keyed

variable {α : Type u} {β : Type v}

/-- The content under a key. -/
def get? (l : Keyed α) (key : Value) : Option α :=
  (l.find? fun e => e.1.same key).map Prod.snd

/-- Whether there is content under a key. -/
def contains (l : Keyed α) (key : Value) : Bool :=
  l.any fun e => e.1.same key

/-- Set the content under a key where it stands, or append it. -/
def put (key : Value) (a : α) : Keyed α → Keyed α
  | [] => [(key, a)]
  | (k, b) :: rest => if k.same key then (k, a) :: rest else (k, b) :: put key a rest

/-- Remove a key. -/
def remove (l : Keyed α) (key : Value) : Keyed α :=
  l.filter fun e => !e.1.same key

/-- The keys, in order. -/
def keys (l : Keyed α) : List Value :=
  l.map Prod.fst

/-- The contents, in order. -/
def values (l : Keyed α) : List α :=
  l.map Prod.snd

/-- The contents under texts, if all keys are texts and differ. -/
def table? (l : Keyed α) : Option (Table α) := do
  let entries ← l.mapM fun e => e.1.asString?.map fun key => (key, e.2)
  if h : (entries.map Prod.fst).Nodup then some ⟨entries, h⟩ else none

/-- The contents of a table, each under its name as a value. -/
def ofTable (t : Table α) : Keyed α :=
  t.entries.map fun e => (.string e.1, e.2)

/-- The contents under texts are a table exactly when they are those of the table. -/
theorem table?_eq_some_iff {l : Keyed α} {t : Table α} : table? l = some t ↔ l = ofTable t := by
  have entry (e : Value × α) (f : String × α) :
      (e.1.asString?.map fun key => (key, e.2)) = some f ↔ e = (.string f.1, f.2) := by
    obtain ⟨key, a⟩ := e
    cases key <;> simp [Value.asString?, Prod.ext_iff, eq_comm]
  constructor
  · intro found
    obtain ⟨entries, read, found⟩ := Option.bind_eq_some_iff.mp found
    split at found
    · cases found
      exact (mapM_eq_some_iff entry).mp read
    · cases found
  · rintro rfl
    have entries : (ofTable t).mapM (fun e => e.1.asString?.map fun key => (key, e.2)) =
        some t.entries :=
      (mapM_eq_some_iff entry).mpr rfl
    simp [table?, entries, t.nodup_keys]

/-- A table is found again from its contents under values. -/
@[simp] theorem table?_ofTable (t : Table α) : table? (ofTable t) = some t :=
  table?_eq_some_iff.mpr rfl

@[simp] theorem keys_ofTable (t : Table α) : (ofTable t).keys = t.keys.map .string := by
  simp [ofTable, keys, Table.keys]

@[simp] theorem values_ofTable (t : Table α) : (ofTable t).values = t.values := by
  simp [ofTable, values, Table.values]

@[simp] theorem get?_ofTable (t : Table α) (key : String) :
    (ofTable t).get? (.string key) = t.get? key := by
  show ((t.entries.map fun e => (Value.string e.1, e.2)).find? fun e =>
    e.1.same (.string key)).map Prod.snd = Table.lookup key t.entries
  induction t.entries with
  | nil => rfl
  | cons e rest ih =>
    obtain ⟨k, a⟩ := e
    rw [List.map_cons, List.find?_cons, Value.same_string]
    by_cases h : k = key
    · simp [Table.lookup, h]
    · rw [beq_false_of_ne h, Table.lookup, if_neg h]
      exact ih

@[simp] theorem put_ofTable (t : Table α) (key : String) (a : α) :
    (ofTable t).put (.string key) a = ofTable (t.insert key a) := by
  show put (.string key) a (t.entries.map fun e => (Value.string e.1, e.2)) =
    (Table.setEntry key a t.entries).map fun e => (Value.string e.1, e.2)
  induction t.entries with
  | nil => rfl
  | cons e rest ih =>
    obtain ⟨k, b⟩ := e
    by_cases h : k = key <;> simp [put, Table.setEntry, h, ih]

theorem map_ofTable (f : α → β) (t : Table α) :
    (ofTable t).map (fun e => (e.1, f e.2)) = ofTable (t.mapEntries fun _ a => f a) := by
  simp [ofTable, Function.comp_def]

/-- Contents are read, each under its key, exactly when they were written under these keys. -/
theorem mapM_contents_iff {read : α → Option β} {write : β → α}
    (h : ∀ a b, read a = some b ↔ a = write b) {l : Keyed α} {l' : Keyed β} :
    (l.mapM fun e => (read e.2).map fun b => (e.1, b)) = some l' ↔
      l = l'.map fun e => (e.1, write e.2) := by
  refine mapM_eq_some_iff fun e f => ?_
  obtain ⟨key, a⟩ := e
  obtain ⟨key', b⟩ := f
  simp only [Option.map_eq_some_iff, h, Prod.mk.injEq]
  constructor
  · rintro ⟨_, rfl, rfl, rfl⟩
    exact ⟨rfl, rfl⟩
  · rintro ⟨rfl, rfl⟩
    exact ⟨b, rfl, rfl, rfl⟩

theorem isSome_get? (l : Keyed α) (key : Value) : (l.get? key).isSome = l.contains key := by
  rw [get?, Option.isSome_map, contains, Bool.eq_iff_iff, List.find?_isSome, List.any_eq_true]

@[simp] theorem contains_ofTable (t : Table α) (key : String) :
    (ofTable t).contains (.string key) = t.contains key := by
  rw [← isSome_get?, get?_ofTable, Table.isSome_get?]

end Keyed

end TicketFlow
