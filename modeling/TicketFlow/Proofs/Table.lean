import Mathlib
import TicketFlow.Table

/-!
# Tables as lists of entries

Lookup in a table is membership in its entries, because no name occurs twice.
Inserting under a new name appends, so what a table held before stays a prefix.
-/

namespace TicketFlow.Table

universe u v

variable {α : Type u} {β : Type v}

theorem lookup_eq_some_iff {l : List (String × α)} (nodup : (l.map Prod.fst).Nodup)
    {key : String} {a : α} : lookup key l = some a ↔ (key, a) ∈ l := by
  induction l with
  | nil => simp [lookup]
  | cons e rest ih =>
      obtain ⟨k, b⟩ := e
      rw [List.map_cons, List.nodup_cons] at nodup
      by_cases h : k = key
      · subst h
        have absent : (k, a) ∉ rest := fun hm =>
          nodup.1 (List.mem_map.mpr ⟨(k, a), hm, rfl⟩)
        simp [lookup, absent, eq_comm]
      · simp [lookup, h, ih nodup.2, Ne.symm h]

theorem lookup_append (key : String) (l r : List (String × α)) :
    lookup key (l ++ r) = (lookup key l).or (lookup key r) := by
  induction l with
  | nil => rfl
  | cons e rest ih =>
      obtain ⟨k, a⟩ := e
      by_cases h : k = key <;> simp [lookup, h, ih]

theorem lookup_map (f : α → β) (key : String) (l : List (String × α)) :
    lookup key (l.map fun e => (e.1, f e.2)) = (lookup key l).map f := by
  induction l with
  | nil => rfl
  | cons e rest ih =>
      obtain ⟨k, a⟩ := e
      by_cases h : k = key <;> simp [lookup, h, ih]

theorem lookup_eq_none_of_not_mem {key : String} {l : List (String × α)}
    (h : key ∉ l.map Prod.fst) : lookup key l = none := by
  induction l with
  | nil => rfl
  | cons e rest ih =>
      obtain ⟨k, a⟩ := e
      rw [List.map_cons, List.mem_cons, not_or] at h
      rw [lookup, if_neg (Ne.symm h.1), ih h.2]

theorem mem_of_lookup {key : String} {a : α} {l : List (String × α)}
    (h : lookup key l = some a) : (key, a) ∈ l := by
  induction l with
  | nil => cases h
  | cons e rest ih =>
      obtain ⟨k, b⟩ := e
      rw [lookup] at h
      split at h
      case isTrue same =>
        cases h
        exact same ▸ List.mem_cons_self
      case isFalse => exact List.mem_cons_of_mem _ (ih h)

/-- The names under which something is found, in their order. -/
theorem map_fst_filterMap (f : String → Option α) (names : List String) :
    (names.filterMap fun key => (f key).map fun a => (key, a)).map Prod.fst =
      names.filter fun key => (f key).isSome := by
  induction names with
  | nil => rfl
  | cons name rest ih => cases h : f name <;> simp [h, ih]

/-- Looking up names in their order gives the entries back, if these follow the same
order. -/
theorem filterMap_lookup {names : List String} {l : List (String × α)} (nodup : names.Nodup)
    (sublist : (l.map Prod.fst).Sublist names) :
    (names.filterMap fun key => (lookup key l).map fun a => (key, a)) = l := by
  induction names generalizing l with
  | nil => exact (List.map_eq_nil_iff.mp (List.sublist_nil.mp sublist)).symm
  | cons name names ih =>
      obtain ⟨new, distinct⟩ := List.nodup_cons.mp nodup
      rcases List.sublist_cons_iff.mp sublist with behind | ⟨keys, same, behind⟩
      · have absent : lookup name l = none :=
          lookup_eq_none_of_not_mem fun h => new (behind.subset h)
        rw [List.filterMap_cons, absent]
        exact ih distinct behind
      · obtain ⟨e, rest, rfl, rfl, rfl⟩ := List.map_eq_cons_iff.mp same
        have later : ∀ key ∈ names, lookup key (e :: rest) = lookup key rest := by
          intro key hkey
          exact if_neg fun (same : e.1 = key) => new (same ▸ hkey)
        have first : lookup e.1 (e :: rest) = some e.2 := if_pos rfl
        have rest' : (names.filterMap fun key => (lookup key (e :: rest)).map fun a => (key, a)) =
            names.filterMap fun key => (lookup key rest).map fun a => (key, a) :=
          List.filterMap_congr fun key hkey => by rw [later key hkey]
        rw [List.filterMap_cons, first, rest', ih distinct behind]
        rfl

/-- The content under a name is that of the one entry with this name. -/
theorem get?_eq_some_iff {t : Table α} {key : String} {a : α} :
    t.get? key = some a ↔ (key, a) ∈ t.entries :=
  lookup_eq_some_iff t.nodup_keys

theorem mem_keys_iff {t : Table α} {key : String} :
    key ∈ t.keys ↔ ∃ a, t.get? key = some a := by
  simp [keys, get?_eq_some_iff]

theorem mem_values_iff {t : Table α} {a : α} :
    a ∈ t.values ↔ ∃ key, (key, a) ∈ t.entries := by
  simp [values]

theorem setEntry_of_not_mem {key : String} {a : α} {l : List (String × α)}
    (h : key ∉ l.map Prod.fst) : setEntry key a l = l ++ [(key, a)] := by
  induction l with
  | nil => rfl
  | cons e rest ih =>
      obtain ⟨k, b⟩ := e
      rw [List.map_cons, List.mem_cons, not_or] at h
      simp [setEntry, Ne.symm h.1, ih h.2]

/-- Under a new name an entry is appended. -/
theorem entries_insert_of_not_mem {t : Table α} {key : String} {a : α} (h : key ∉ t.keys) :
    (t.insert key a).entries = t.entries ++ [(key, a)] :=
  setEntry_of_not_mem h

/-- What was removed is not found, and no other name changes. -/
theorem get?_erase (t : Table α) (key key' : String) :
    (t.erase key).get? key' = if key = key' then none else t.get? key' := by
  show lookup key' (t.entries.filter fun e => e.1 != key) = if key = key' then none else
    lookup key' t.entries
  induction t.entries with
  | nil => simp [lookup]
  | cons e rest ih =>
      obtain ⟨k, b⟩ := e
      by_cases h : k = key <;> by_cases h' : key = key' <;> simp_all [lookup]

theorem mem_setEntry {key : String} {a : α} {l : List (String × α)} {e : String × α}
    (h : e ∈ setEntry key a l) : e = (key, a) ∨ e ∈ l := by
  induction l with
  | nil => exact .inl (List.mem_singleton.mp h)
  | cons head rest ih =>
      obtain ⟨k, b⟩ := head
      rw [setEntry] at h
      split at h
      case isTrue same =>
        subst same
        exact (List.mem_cons.mp h).imp_right (List.mem_cons_of_mem _)
      case isFalse =>
        rcases List.mem_cons.mp h with rfl | h
        · exact .inr List.mem_cons_self
        · exact (ih h).imp_right (List.mem_cons_of_mem _)

theorem mem_entries_of_insert {t : Table α} {key : String} {a : α} {e : String × α}
    (h : e ∈ (t.insert key a).entries) : e = (key, a) ∨ e ∈ t.entries :=
  mem_setEntry h

/-- Every entry of a table that a list gives stands in the list. -/
theorem mem_of_mem_ofList {l : List (String × α)} {e : String × α}
    (h : e ∈ (ofList l).entries) : e ∈ l := by
  have loop : ∀ (l : List (String × α)) (t : Table α),
      e ∈ (l.foldl (fun t e => t.insert e.1 e.2) t).entries → e ∈ t.entries ∨ e ∈ l := by
    intro l
    induction l with
    | nil => exact fun t h => .inl h
    | cons head rest ih =>
        intro t h
        rcases ih _ h with h | h
        · rcases mem_entries_of_insert h with rfl | h
          · exact .inr List.mem_cons_self
          · exact .inl h
        · exact .inr (List.mem_cons_of_mem head h)
  exact (loop l empty h).resolve_left List.not_mem_nil

/-- The entries of a table give the table. -/
theorem ofList_entries (t : Table α) : ofList t.entries = t := by
  have loop : ∀ (l : List (String × α)) (s : Table α), ((s.entries ++ l).map Prod.fst).Nodup →
      (l.foldl (fun t e => t.insert e.1 e.2) s).entries = s.entries ++ l := by
    intro l
    induction l with
    | nil => exact fun s _ => (List.append_nil _).symm
    | cons head rest ih =>
        intro s nodup
        have absent : head.1 ∉ s.keys := by
          rw [List.map_append, List.nodup_append'] at nodup
          exact fun h => nodup.2.2 h List.mem_cons_self
        have entries := entries_insert_of_not_mem (a := head.2) absent
        rw [List.foldl_cons, ih _ (by rwa [entries, List.append_assoc]), entries,
          List.append_assoc]
        rfl
  exact ext (loop t.entries empty t.nodup_keys)

theorem setEntry_setEntry (key : String) (a b : α) (l : List (String × α)) :
    setEntry key b (setEntry key a l) = setEntry key b l := by
  induction l with
  | nil => simp [setEntry]
  | cons e rest ih =>
      obtain ⟨k, c⟩ := e
      by_cases h : k = key <;> simp [setEntry, h, ih]

/-- Of two contents under a name the later one counts. -/
theorem insert_insert (t : Table α) (key : String) (a b : α) :
    (t.insert key a).insert key b = t.insert key b :=
  ext (setEntry_setEntry key a b t.entries)

theorem map_setEntry (f : String → α → β) (key : String) (a : α) (l : List (String × α)) :
    (setEntry key a l).map (fun e => (e.1, f e.1 e.2)) =
      setEntry key (f key a) (l.map fun e => (e.1, f e.1 e.2)) := by
  induction l with
  | nil => rfl
  | cons e rest ih =>
      obtain ⟨k, b⟩ := e
      by_cases h : k = key <;> simp [setEntry, h, ih]

theorem mapEntries_insert (f : String → α → β) (t : Table α) (key : String) (a : α) :
    (t.insert key a).mapEntries f = (t.mapEntries f).insert key (f key a) :=
  ext (map_setEntry f key a t.entries)

theorem keys_eq_map_entries (t : Table α) : t.keys = t.entries.map Prod.fst := rfl

theorem values_eq_map_entries (t : Table α) : t.values = t.entries.map Prod.snd := rfl

/-- At most one entry has a name. -/
theorem length_filter_key_le (t : Table α) (p : String × α → Bool) (key : String) :
    ((t.entries.filter p).filter fun e => e.1 == key).length ≤ 1 := by
  have nodup : (((t.entries.filter p).filter fun e => e.1 == key).map Prod.fst).Nodup :=
    t.nodup_keys.sublist ((List.filter_sublist.trans List.filter_sublist).map _)
  generalize hl : (t.entries.filter p).filter (fun e => e.1 == key) = l at nodup
  have same : ∀ e ∈ l, e.1 = key := by
    intro e he
    rw [← hl, List.mem_filter, beq_iff_eq] at he
    exact he.2
  match l, nodup, same with
  | [], _, _ => exact Nat.zero_le 1
  | [_], _, _ => exact Nat.le_refl 1
  | a :: b :: _, nodup, same =>
      simp [same a, same b] at nodup

end TicketFlow.Table
