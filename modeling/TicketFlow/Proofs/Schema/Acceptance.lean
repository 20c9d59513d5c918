import TicketFlow.Proofs.Number.Count
import TicketFlow.Proofs.Table
import TicketFlow.Schema.Document

/-!
# What a schema accepts

Acceptance by each kind of requirement, in terms of the value alone. A schema lists
violations; here acceptance of the whole is acceptance by its parts, so what follows
from a document's schema is read off without looking at the lists.
-/

namespace TicketFlow.Schema

variable {v : Value} {name : String} {content first second : Schema}

instance (schema : Schema) (v : Value) : Decidable (schema.Accepts v) :=
  decidable_of_iff ((schema.violations v).isEmpty = true) List.isEmpty_iff

/-! ## Single requirements -/

attribute [local simp] violations

@[simp] theorem accepts_any : any.Accepts v := rfl

@[simp] theorem accepts_kind {expected : Kind} :
    (kind expected).Accepts v ↔ expected.accepts v = true := by
  simp [Accepts]

theorem accepts_oneOf {choices : List String} :
    (oneOf choices).Accepts v ↔ ∃ s ∈ choices, v = .string s := by
  cases v <;> simp [Accepts]

theorem accepts_nonEmpty : nonEmpty.Accepts v ↔ v ≠ .string "" := by
  cases v <;> simp [Accepts, Value.asString?]

theorem accepts_nonNegative : nonNegative.Accepts v ↔ ∀ n, v = .number n → n.lt 0 = false := by
  cases v <;> simp [Accepts]

@[simp] theorem accepts_field :
    (field name content).Accepts v ↔ ∀ x, v.get? name = some x → content.Accepts x := by
  simp only [Accepts, violations]
  cases v.get? name <;> simp

@[simp] theorem accepts_required {fields : List (String × Value)} :
    (required name).Accepts (.object fields) ↔ ∃ x, (Value.object fields).get? name = some x := by
  cases h : (Value.object fields).get? name <;> simp [Accepts, h]

@[simp] theorem accepts_closed {names : List String} :
    (closed names).Accepts v ↔ ∀ key ∈ v.fields.map Prod.fst, key ∈ names := by
  have none : unexpectedKeys names v.fields = [] ↔ ∀ key ∈ v.fields.map Prod.fst, key ∈ names := by
    rw [unexpectedKeys, ← List.length_eq_zero_iff, List.length_mergeSort,
      List.length_eq_zero_iff]
    simp
  rw [← none, Accepts, violations]
  cases unexpectedKeys names v.fields <;> simp

@[simp] theorem accepts_eachField :
    (eachField content).Accepts v ↔ ∀ f ∈ v.fields, content.Accepts f.2 := by
  simp [Accepts]

@[simp] theorem accepts_eachItem :
    (eachItem content).Accepts v ↔ ∀ x ∈ v.items, content.Accepts x := by
  have items := List.zipIdx_map_fst 0 v.items
  simp only [Accepts, violations]
  generalize v.items.zipIdx = numbered at items ⊢
  simp [← items]

@[simp] theorem accepts_whenTag {tag : String} :
    (whenTag name tag content).Accepts v ↔
      ((∀ found, v.get? name = some found → found = .string tag) → content.Accepts v) := by
  simp only [Accepts, violations]
  cases v.get? name with
  | none => simp
  | some found => cases found <;> simp [Value.asString?]

@[simp] theorem accepts_both :
    (both first second).Accepts v ↔ first.Accepts v ∧ second.Accepts v :=
  List.append_eq_nil_iff

@[simp] theorem accepts_all {schemas : List Schema} :
    (all schemas).Accepts v ↔ ∀ s ∈ schemas, s.Accepts v := by
  simp [Accepts]

theorem accepts_all_nil : (all []).Accepts v := rfl

theorem accepts_all_cons {schemas : List Schema} :
    (all (first :: schemas)).Accepts v ↔ first.Accepts v ∧ (all schemas).Accepts v :=
  accepts_both

/-! ## Common forms -/

attribute [local simp] Kind.accepts

theorem accepts_object {schemas : List Schema} :
    (all (.kind .object :: schemas)).Accepts v ↔
      ∃ fields, v = .object fields ∧ (all schemas).Accepts v := by
  rw [accepts_all_cons]
  cases v <;> simp

theorem accepts_list :
    (both (.kind .array) (.eachItem content)).Accepts v ↔
      ∃ items, v = .array items ∧ ∀ x ∈ items, content.Accepts x := by
  cases v <;> simp

theorem accepts_text : text.Accepts v ↔ ∃ s, v = .string s := by
  cases v <;> simp [text]

theorem accepts_filledText : filledText.Accepts v ↔ ∃ s, s ≠ "" ∧ v = .string s := by
  cases v <;> simp [filledText, accepts_nonEmpty]

theorem accepts_count : count.Accepts v ↔ ∃ n : Number, n.IsCount ∧ v = .number n := by
  cases v <;> simp [count, accepts_nonNegative, Number.isCount_iff]

theorem accepts_choice {choices : List String} :
    (choice choices).Accepts v ↔ ∃ s ∈ choices, v = .string s := by
  cases v <;> simp [choice, accepts_oneOf]

/-- A field that must be there meets its schema. -/
theorem exists_field {fields : List (String × Value)}
    (there : (required name).Accepts (.object fields))
    (meets : (field name content).Accepts (.object fields)) :
    ∃ x, (Value.object fields).get? name = some x ∧ content.Accepts x := by
  obtain ⟨x, found⟩ := accepts_required.mp there
  exact ⟨x, found, accepts_field.mp meets x found⟩

theorem accepts_field_of_get? {x : Value} (found : v.get? name = some x)
    (meets : content.Accepts x) : (field name content).Accepts v := by
  rw [accepts_field, found]
  rintro _ ⟨⟩
  exact meets

/-- A field with a text, or without one. -/
theorem accepts_field_text {content? : Option String} (found : v.get? name = content?.map .string) :
    (field name text).Accepts v := by
  rw [accepts_field, found]
  intro x there
  obtain ⟨s, -, rfl⟩ := Option.map_eq_some_iff.mp there
  exact accepts_text.mpr ⟨s, rfl⟩

/-- A field with a count, or without one. -/
theorem accepts_field_count {content? : Option Number} (found : v.get? name = content?.map .number)
    (isCount : ∀ n, content? = some n → n.IsCount) : (field name count).Accepts v := by
  rw [accepts_field, found]
  intro x there
  obtain ⟨n, number, rfl⟩ := Option.map_eq_some_iff.mp there
  exact accepts_count.mpr ⟨n, isCount n number, rfl⟩

end TicketFlow.Schema
