import TicketFlow.Proofs.Rule.Ownership

/-!
# What synchronising leaves

A synchronisation that succeeds filters the rules by a stem and appends the
compiled ones; one that fails gives no store. The main statement says between
which workflow ids this is safe: synchronising one keeps all rules of the other,
in order, exactly when the stem of the first does not reach into the second.
-/

namespace TicketFlow.Store

open Fallible

variable {s s' : Store} {n : Nat}

theorem replaceRules_eq_ok {stem : String} {compiled : List Rule} :
    s.replaceRules stem compiled = .ok s' ↔ s.fault? = none ∧
      s' = { s with rules := s.rules.filter (fun r => !r.hasStem stem) ++ compiled } := by
  rw [replaceRules]
  cases s.fault? <;> simp [eq_comm]

/-- Synchronising one workflow succeeds exactly when it compiles and the rules can be
written. -/
theorem syncWorkflow_eq_ok {id : String} {enabled : Bool} :
    s.syncWorkflow id enabled = .ok (s', n) ↔ ∃ compiled,
      s.compileFor id enabled = .ok compiled ∧ s.fault? = none ∧
      s' = { s with rules := s.rules.filter (fun r => !r.hasStem (Rule.stem id)) ++ compiled } ∧
      n = compiled.length := by
  simp only [syncWorkflow, bind_eq_ok, pure_eq_ok, replaceRules_eq_ok, Prod.mk.injEq]
  constructor
  · rintro ⟨compiled, hc, _, ⟨fault, rfl⟩, rfl, rfl⟩
    exact ⟨compiled, hc, fault, rfl, rfl⟩
  · rintro ⟨compiled, hc, fault, rfl, rfl⟩
    exact ⟨compiled, hc, _, ⟨fault, rfl⟩, rfl, rfl⟩

/-- Rules that do not begin with the stem stay, in their order. -/
theorem sublist_syncWorkflow {id : String} {enabled : Bool}
    (h : s.syncWorkflow id enabled = .ok (s', n)) {kept : List Rule}
    (sub : kept.Sublist s.rules) (apart : ∀ r ∈ kept, r.hasStem (Rule.stem id) = false) :
    kept.Sublist s'.rules := by
  obtain ⟨compiled, _, _, rfl, _⟩ := syncWorkflow_eq_ok.mp h
  have unfiltered : kept.filter (fun r => !r.hasStem (Rule.stem id)) = kept :=
    List.filter_eq_self.mpr fun r hr => by simp [apart r hr]
  exact (unfiltered ▸ sub.filter _).trans (List.sublist_append_left _ _)

/-- Synchronising the workflow `a` keeps, unchanged and in order, all rules that come
of a workflow with the id `b`, in every store. -/
def Spares (a b : String) : Prop :=
  ∀ (s s' : Store) (enabled : Bool) (n : Nat), s.syncWorkflow a enabled = .ok (s', n) →
    ∀ kept : List Rule, kept.Sublist s.rules → (∀ r ∈ kept, r.CompiledFrom b) →
      kept.Sublist s'.rules

theorem spares_of_not_stemReaches {a b : String} (h : ¬Rule.StemReaches a b) : Spares a b := by
  intro s s' enabled n hsync kept sub owned
  refine sublist_syncWorkflow hsync sub fun r hr => ?_
  by_contra stem
  rw [Bool.not_eq_false, Rule.hasStem_iff] at stem
  obtain ⟨rest, hrest⟩ := stem
  obtain ⟨w, rules, rfl, compiles, hmem⟩ := owned r hr
  obtain ⟨family, hfamily, name, hid⟩ := Workflow.id_of_mem_compile compiles hmem
  exact h (Rule.stemReaches_iff.mpr ⟨family, hfamily, name, rest, by rw [← hid, hrest]⟩)

/-- A stem that reaches into another workflow takes a rule of it away. -/
theorem exists_lost_of_stemReaches {a b : String} (h : Rule.StemReaches a b) :
    ∃ (s s' : Store) (n : Nat) (r : Rule), s.syncWorkflow a false = .ok (s', n) ∧
      r ∈ s.rules ∧ r.CompiledFrom b ∧ r ∉ s'.rules := by
  obtain ⟨family, hfamily, name, rest, hid⟩ := Rule.stemReaches_iff.mp h
  obtain ⟨r, hr, hrid⟩ := Workflow.exists_compiledFrom b hfamily name
  have stem : r.hasStem (Rule.stem a) = true := Rule.hasStem_iff.mpr ⟨rest, by rw [hrid, hid]⟩
  refine ⟨⟨.empty, [r], none⟩, ⟨.empty, [], none⟩, 0, r, ?_, List.mem_singleton_self r, hr,
    List.not_mem_nil⟩
  exact syncWorkflow_eq_ok.mpr ⟨[], rfl, rfl, by simp [stem], rfl⟩

/-- Synchronising a workflow spares the rules of another one exactly when the stem of
the first begins no rule id of the second. -/
theorem spares_iff_not_stemReaches (a b : String) : Spares a b ↔ ¬Rule.StemReaches a b := by
  constructor
  · intro spares reaches
    obtain ⟨s, s', n, r, hsync, hmem, owned, lost⟩ := exists_lost_of_stemReaches reaches
    have kept := spares s s' false n hsync [r] (List.singleton_sublist.mpr hmem)
      (by simpa using owned)
    exact lost (List.singleton_sublist.mp kept)
  · exact spares_of_not_stemReaches

/-- Two different ids of which the first takes rules of the second away. -/
theorem syncWorkflow_of_a_loses_rule_of_a_b : "a" ≠ "a-b" ∧
    ∃ (s s' : Store) (n : Nat) (r : Rule), s.syncWorkflow "a" false = .ok (s', n) ∧
      r ∈ s.rules ∧ r.CompiledFrom "a-b" ∧ r ∉ s'.rules :=
  ⟨by decide, exists_lost_of_stemReaches (Or.inl ⟨"b-", by decide⟩)⟩

end TicketFlow.Store
