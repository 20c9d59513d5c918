import Mathlib.Data.List.Sort
import Mathlib.Data.String.Basic
import Mathlib.Order.Compare
import TicketFlow.Schema.Basic

/-!
# Sorting violations by path

Two paths are compared at the first step in which they differ, and a key and an index have no
order. Paths that never part at a key and an index are ordered as lists of steps are, and
violations with such paths are sorted by it: none is lost, a path comes before its
continuations, and violations of one path stay as they were.
-/

namespace TicketFlow

/-! ## Steps and paths -/

namespace Step

/-- Keys are ordered as texts and indices as numbers. A key and an index are not ordered. -/
instance : LT Step where
  lt
    | .key a, .key b => a < b
    | .index i, .index j => i < j
    | _, _ => False

@[simp] theorem key_lt_key {a b : String} : key a < key b ↔ a < b := Iff.rfl

@[simp] theorem index_lt_index {i j : Nat} : index i < index j ↔ i < j := Iff.rfl

@[simp] theorem not_key_lt_index {a : String} {j : Nat} : ¬key a < index j := id

@[simp] theorem not_index_lt_key {i : Nat} {b : String} : ¬index i < key b := id

@[simp] theorem lt_irrefl {s : Step} : ¬s < s := by
  cases s <;> simp

instance : IsTrans Step (· < ·) where
  trans s t u first second := by
    cases s <;> cases t <;> cases u
    case key.key.key => exact String.lt_trans first second
    case index.index.index => exact Nat.lt_trans first second
    all_goals simp_all

/-- Two keys, or two indices. -/
inductive Alike : Step → Step → Prop
  | keys (a b : String) : Alike (.key a) (.key b)
  | indices (i j : Nat) : Alike (.index i) (.index j)

variable {s t : Step}

theorem compare?_eq_some_iff {o : Ordering} : s.compare? t = some o ↔ o.Compares s t := by
  cases s <;> cases t
  case key.key a b =>
    rw [compare?, Option.some_inj, ← LinearOrder.compare_eq_compareOfLessAndEq, compare_iff]
    cases o <;> simp
  case index.index i j =>
    rw [compare?, Option.some_inj, compare_iff]
    cases o <;> simp
  all_goals cases o <;> simp [compare?]

theorem compare?_eq_eq_iff : s.compare? t = some .eq ↔ s = t :=
  compare?_eq_some_iff

theorem exists_compare?_iff : (∃ o, s.compare? t = some o) ↔ s.Alike t := by
  constructor
  · rintro ⟨o, h⟩
    cases s <;> cases t
    case key.key a b => exact .keys a b
    case index.index i j => exact .indices i j
    all_goals cases h
  · rintro (⟨a, b⟩ | ⟨i, j⟩) <;> exact ⟨_, rfl⟩

end Step

namespace Path

/-- One of two paths continues the other, or the first steps in which they differ are two
keys or two indices. -/
def PartAlike (p q : Path) : Prop :=
  p <+: q ∨ q <+: p ∨ ∃ common s t p' q', p = common ++ s :: p' ∧ q = common ++ t :: q' ∧
    s ≠ t ∧ s.Alike t

variable {p q : Path} {s t : Step}

theorem partAlike_nil_left : PartAlike [] q :=
  .inl List.nil_prefix

theorem partAlike_nil_right : PartAlike p [] :=
  .inr (.inl List.nil_prefix)

theorem partAlike_cons_iff :
    PartAlike (s :: p) (t :: q) ↔ s = t ∧ PartAlike p q ∨ s ≠ t ∧ s.Alike t := by
  constructor
  · rintro (continued | continued | ⟨common, s', t', p', q', left, right, differ, alike⟩)
    · obtain ⟨same, rest⟩ := List.cons_prefix_cons.mp continued
      exact .inl ⟨same, .inl rest⟩
    · obtain ⟨same, rest⟩ := List.cons_prefix_cons.mp continued
      exact .inl ⟨same.symm, .inr (.inl rest)⟩
    · cases common with
      | nil =>
          obtain ⟨rfl, rfl⟩ := List.cons.inj left
          obtain ⟨rfl, rfl⟩ := List.cons.inj right
          exact .inr ⟨differ, alike⟩
      | cons c common =>
          obtain ⟨rfl, rfl⟩ := List.cons.inj left
          obtain ⟨rfl, rfl⟩ := List.cons.inj right
          exact .inl ⟨rfl, .inr (.inr ⟨common, s', t', p', q', rfl, rfl, differ, alike⟩)⟩
  · rintro (⟨rfl, continued | continued | ⟨common, s', t', p', q', rfl, rfl, differ, alike⟩⟩ |
      ⟨differ, alike⟩)
    · exact .inl (List.cons_prefix_cons.mpr ⟨rfl, continued⟩)
    · exact .inr (.inl (List.cons_prefix_cons.mpr ⟨rfl, continued⟩))
    · exact .inr (.inr ⟨s :: common, s', t', p', q', rfl, rfl, differ, alike⟩)
    · exact .inr (.inr ⟨[], s, t, p, q, rfl, rfl, differ, alike⟩)

theorem compare?_cons_self : compare? (s :: p) (s :: q) = compare? p q := by
  rw [compare?, Step.compare?_eq_eq_iff.mpr rfl]

theorem compare?_cons_of_ne (differ : s ≠ t) : compare? (s :: p) (t :: q) = s.compare? t := by
  rw [compare?]
  split
  case h_1 same => exact absurd (Step.compare?_eq_eq_iff.mp same) differ
  case h_2 => rfl

theorem compares_cons_self {o : Ordering} : o.Compares (s :: p) (s :: q) ↔ o.Compares p q := by
  cases o <;> simp [List.cons_lt_cons_iff]

theorem compares_cons_of_ne {o : Ordering} (differ : s ≠ t) :
    o.Compares (s :: p) (t :: q) ↔ o.Compares s t := by
  cases o <;> simp [List.cons_lt_cons_iff, differ, differ.symm]

/-- The comparison of two paths is the lexicographic order of lists. -/
theorem compare?_eq_some_iff {o : Ordering} : compare? p q = some o ↔ o.Compares p q := by
  induction p generalizing q with
  | nil => cases q <;> cases o <;> simp [compare?]
  | cons s p ih =>
      cases q with
      | nil => cases o <;> simp [compare?]
      | cons t q =>
          -- The first steps decide unless they are the same.
          rcases eq_or_ne s t with rfl | differ
          · rw [compare?_cons_self, compares_cons_self, ih]
          · rw [compare?_cons_of_ne differ, compares_cons_of_ne differ, Step.compare?_eq_some_iff]

/-- Two paths can be compared exactly when they do not part at a key and an index. -/
theorem exists_compare?_iff : (∃ o, compare? p q = some o) ↔ p.PartAlike q := by
  induction p generalizing q with
  | nil => cases q <;> simp [compare?, partAlike_nil_left]
  | cons s p ih =>
      cases q with
      | nil => simp [compare?, partAlike_nil_right]
      | cons t q =>
          rw [partAlike_cons_iff, ← ih, ← Step.exists_compare?_iff]
          rcases eq_or_ne s t with rfl | differ
          · simp [compare?_cons_self]
          · simp [compare?_cons_of_ne differ, differ]

/-- Of two paths that can be compared, one is not behind the other when it is the same or less. -/
theorem le_iff_of_partAlike (alike : p.PartAlike q) : p.le q = true ↔ p = q ∨ p < q := by
  have same : p = q ↔ compare? p q = some .eq := (@compare?_eq_some_iff p q .eq).symm
  have less : p < q ↔ compare? p q = some .lt := (@compare?_eq_some_iff p q .lt).symm
  obtain ⟨o, compared⟩ := exists_compare?_iff.mpr alike
  rw [le, same, less, compared]
  cases o <;> simp

end Path

/-! ## Sorting by path -/

namespace Violation

/-- The paths of some violations can be compared with one another. -/
def Comparable (vs : List Violation) : Prop :=
  ∀ a ∈ vs, ∀ b ∈ vs, a.path.PartAlike b.path

/-- A comparison of violations follows the order of their paths where there is one. Nothing
is said about paths that cannot be compared. -/
def FollowsPaths (le : Violation → Violation → Bool) : Prop :=
  ∀ a b o, Path.compare? a.path b.path = some o → le a b = (o != .gt)

variable {vs : List Violation}

theorem perm_sorted (vs : List Violation) : (sorted vs).Perm vs :=
  List.mergeSort_perm vs _

/-- A sort compares members only. -/
theorem sorted_eq_map_attach (vs : List Violation) :
    sorted vs = (vs.attach.mergeSort fun a b => a.1.path.le b.1.path).map Subtype.val := by
  have sorts : (vs.attach.mergeSort fun a b => a.1.path.le b.1.path).map Subtype.val =
      (vs.attach.map Subtype.val).mergeSort fun a b => a.path.le b.path :=
    List.map_mergeSort fun _ _ _ _ => rfl
  rw [sorts, List.attach_map_subtype_val, sorted]

/-- What a comparison makes of paths that cannot be compared is of no account. -/
theorem Comparable.sorted_eq_mergeSort (h : Comparable vs) {le : Violation → Violation → Bool}
    (follows : FollowsPaths le) : sorted vs = vs.mergeSort le := by
  have same : ∀ a ∈ vs, ∀ b ∈ vs, le a b = a.path.le b.path := by
    intro a ha b hb
    obtain ⟨o, compared⟩ := Path.exists_compare?_iff.mpr (h a ha b hb)
    rw [follows a b o compared, Path.le, compared]
    cases o <;> rfl
  have sorts : (vs.mergeSort le).map id = (vs.map id).mergeSort fun a b => a.path.le b.path :=
    List.map_mergeSort same
  rw [List.map_id, List.map_id] at sorts
  exact sorts.symm

section

variable (h : Comparable vs)

include h

theorem Comparable.le_trans (a b c : { a // a ∈ vs }) (first : a.1.path.le b.1.path = true)
    (second : b.1.path.le c.1.path = true) : a.1.path.le c.1.path = true := by
  rw [Path.le_iff_of_partAlike (h _ a.2 _ b.2)] at first
  rw [Path.le_iff_of_partAlike (h _ b.2 _ c.2)] at second
  rw [Path.le_iff_of_partAlike (h _ a.2 _ c.2)]
  rcases first with same | less
  · rwa [same]
  · rcases second with same | more
    · exact .inr (same ▸ less)
    · exact .inr (List.lt_trans less more)

theorem Comparable.le_total (a b : { a // a ∈ vs }) :
    (a.1.path.le b.1.path || b.1.path.le a.1.path) = true := by
  obtain ⟨o, compared⟩ := Path.exists_compare?_iff.mpr (h _ a.2 _ b.2)
  have order := Path.compare?_eq_some_iff.mp compared
  rw [Bool.or_eq_true, Path.le_iff_of_partAlike (h _ a.2 _ b.2),
    Path.le_iff_of_partAlike (h _ b.2 _ a.2)]
  cases o with
  | lt => exact .inl (.inr order)
  | eq => exact .inl (.inl order)
  | gt => exact .inr (.inr order)

theorem Comparable.pairwise_sorted :
    (sorted vs).Pairwise fun a b => a.path = b.path ∨ a.path < b.path := by
  rw [sorted_eq_map_attach, List.pairwise_map]
  refine (List.pairwise_mergeSort h.le_trans h.le_total vs.attach).imp ?_
  intro a b le
  exact (Path.le_iff_of_partAlike (h _ a.2 _ b.2)).mp le

/-- Violations of one path keep their order. -/
theorem Comparable.filter_sorted (path : Path) :
    (sorted vs).filter (·.path = path) = vs.filter (·.path = path) := by
  -- All of them are in order before sorting, and sorting keeps what is in order.
  have inOrder : (vs.attach.filter (·.1.path = path)).Pairwise
      fun a b => a.1.path.le b.1.path = true := by
    refine List.pairwise_of_forall_mem_list fun a ha b hb => ?_
    have samePath : a.1.path = b.1.path := by
      simp only [List.mem_filter, decide_eq_true_eq] at ha hb
      rw [ha.2, hb.2]
    exact (Path.le_iff_of_partAlike (h _ a.2 _ b.2)).mpr (.inl samePath)
  have members := calc (vs.attach.filter (·.1.path = path)).map Subtype.val
    _ = (vs.attach.map Subtype.val).filter (·.path = path) := by rw [List.filter_map]; rfl
    _ = vs.filter (·.path = path) := by rw [List.attach_map_subtype_val]
  have kept := (List.sublist_mergeSort h.le_trans h.le_total inOrder List.filter_sublist).map
    Subtype.val
  rw [← sorted_eq_map_attach, members] at kept
  have both := kept.filter (·.path = path)
  rw [List.filter_filter] at both
  simp only [Bool.and_self] at both
  exact (both.eq_of_length ((perm_sorted vs).filter _).length_eq.symm).symm

end

end Violation

end TicketFlow
