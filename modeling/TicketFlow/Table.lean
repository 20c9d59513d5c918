/-!
# Tables

A `Table` maps names to contents and keeps the order in which the names came.
`insert` gives a known name its new content where it stands and appends an
unknown one. The entries are a plain list for which no two names are equal, so
order, membership and lookup are all statements about that list.
-/

namespace TicketFlow

universe u v

/-- An ordered association of names with contents. -/
structure Table (α : Type u) where
  entries : List (String × α)
  nodup_keys : (entries.map Prod.fst).Nodup

namespace Table

variable {α : Type u} {β : Type v}

/-- Two tables with the same entries are equal. -/
@[ext] theorem ext {s t : Table α} (h : s.entries = t.entries) : s = t := by
  cases s
  cases t
  cases h
  rfl

instance [DecidableEq α] : DecidableEq (Table α) := fun s t =>
  decidable_of_iff (s.entries = t.entries) ⟨ext, fun h => h ▸ rfl⟩

/-- The table without entries. -/
def empty : Table α :=
  ⟨[], List.nodup_nil⟩

instance : Inhabited (Table α) := ⟨empty⟩

/-- The names, in order. -/
def keys (t : Table α) : List String :=
  t.entries.map Prod.fst

/-- The contents, in order. -/
def values (t : Table α) : List α :=
  t.entries.map Prod.snd

/-- The content of the first entry with a name. -/
def lookup (key : String) : List (String × α) → Option α
  | [] => none
  | (k, a) :: rest => if k = key then some a else lookup key rest

/-- The content under a name. -/
def get? (t : Table α) (key : String) : Option α :=
  lookup key t.entries

/-- Whether a name occurs. -/
def contains (t : Table α) (key : String) : Bool :=
  t.keys.contains key

/-- Set the content under a name where it stands, or append it. -/
def setEntry (key : String) (a : α) : List (String × α) → List (String × α)
  | [] => [(key, a)]
  | (k, b) :: rest => if k = key then (k, a) :: rest else (k, b) :: setEntry key a rest

theorem keys_setEntry (key : String) (a : α) (l : List (String × α)) :
    (setEntry key a l).map Prod.fst =
      if key ∈ l.map Prod.fst then l.map Prod.fst else l.map Prod.fst ++ [key] := by
  induction l with
  | nil => simp [setEntry]
  | cons e rest ih =>
    obtain ⟨k, b⟩ := e
    by_cases h : k = key
    · simp [setEntry, h]
    · by_cases hm : key ∈ rest.map Prod.fst <;> simp [setEntry, h, hm, ih, Ne.symm h]

theorem nodup_keys_setEntry (key : String) (a : α) {l : List (String × α)}
    (h : (l.map Prod.fst).Nodup) : ((setEntry key a l).map Prod.fst).Nodup := by
  rw [keys_setEntry]
  split
  · exact h
  · rename_i hm
    rw [List.nodup_append]
    refine ⟨h, by simp, ?_⟩
    intro k hk k' hk' e
    rw [List.mem_singleton] at hk'
    exact hm (hk' ▸ e ▸ hk)

/-- Set the content under a name where it stands, or append it. -/
def insert (t : Table α) (key : String) (a : α) : Table α :=
  ⟨setEntry key a t.entries, nodup_keys_setEntry key a t.nodup_keys⟩

/-- Remove a name. -/
def erase (t : Table α) (key : String) : Table α :=
  ⟨t.entries.filter fun e => e.1 != key,
    t.nodup_keys.sublist (List.filter_sublist.map _)⟩

/-- Change the contents, with their names at hand. -/
def mapEntries (f : String → α → β) (t : Table α) : Table β :=
  ⟨t.entries.map fun e => (e.1, f e.1 e.2), by
    have : (t.entries.map fun e => (e.1, f e.1 e.2)).map Prod.fst = t.entries.map Prod.fst := by
      simp
    exact this ▸ t.nodup_keys⟩

/-- The table that inserting the entries of a list one by one gives. -/
def ofList (l : List (String × α)) : Table α :=
  l.foldl (fun t e => t.insert e.1 e.2) empty

@[simp] theorem entries_empty : (empty : Table α).entries = [] := rfl

@[simp] theorem entries_mapEntries (f : String → α → β) (t : Table α) :
    (t.mapEntries f).entries = t.entries.map fun e => (e.1, f e.1 e.2) := rfl

@[simp] theorem keys_mapEntries (f : String → α → β) (t : Table α) :
    (t.mapEntries f).keys = t.keys := by
  simp [keys]

theorem keys_insert (t : Table α) (key : String) (a : α) :
    (t.insert key a).keys = if key ∈ t.keys then t.keys else t.keys ++ [key] :=
  keys_setEntry key a t.entries

/-- What was inserted is found, and no other name changes. -/
theorem get?_insert (t : Table α) (key key' : String) (a : α) :
    (t.insert key a).get? key' = if key = key' then some a else t.get? key' := by
  show lookup key' (setEntry key a t.entries) = if key = key' then some a else
    lookup key' t.entries
  induction t.entries with
  | nil => simp [setEntry, lookup]
  | cons e rest ih =>
    obtain ⟨k, b⟩ := e
    by_cases h : k = key <;> by_cases h' : key = key' <;> simp_all [setEntry, lookup]

@[simp] theorem contains_iff (t : Table α) (key : String) :
    t.contains key = true ↔ key ∈ t.keys := by
  simp [contains]

/-- A name occurs exactly when there is content under it. -/
theorem isSome_get? (t : Table α) (key : String) :
    (t.get? key).isSome = t.contains key := by
  show (lookup key t.entries).isSome = (t.entries.map Prod.fst).contains key
  induction t.entries with
  | nil => rfl
  | cons e rest ih =>
    obtain ⟨k, b⟩ := e
    by_cases h : k = key
    · simp [lookup, h]
    · simp [lookup, h, Ne.symm h, ih]

end Table

end TicketFlow
