import TicketFlow.Proofs.Rule.Compile
import TicketFlow.Store.Basic

/-!
# Whose rule an id names

The id of a compiled rule is the stem of its workflow, then one of four family
names, then a free text. Whether a rule belongs to a workflow is told by the stem
alone, and a stem may also begin the ids of another workflow. `stemReaches_iff`
says for which two workflow ids this happens.
-/

namespace TicketFlow

namespace Rule

/-- What the free part of a rule id begins with, one name for each kind of rule. -/
def families : List String :=
  ["entry-", "t-", "enter-", "sla-"]

/-- A rule that some workflow with an id compiles to. -/
def CompiledFrom (workflowId : String) (r : Rule) : Prop :=
  ∃ w rules, w.id = workflowId ∧ Workflow.compile w = .ok rules ∧ r ∈ rules

/-- The stem of the workflow id `a` begins some rule id of the workflow id `b`: with
a hyphen behind both, `a` begins `b`, or `b` and a family name begin `a`. -/
def StemReaches (a b : String) : Prop :=
  (∃ rest, b ++ "-" = a ++ "-" ++ rest) ∨
    ∃ family ∈ families, ∃ rest, a ++ "-" = b ++ "-" ++ family ++ rest

/-- A text goes on from another one exactly when that is a prefix of it. -/
theorem exists_append_iff {s t : String} : (∃ rest, s = t ++ rest) ↔ t.toList <+: s.toList := by
  constructor
  · rintro ⟨rest, rfl⟩
    exact ⟨rest.toList, String.toList_append.symm⟩
  · rintro ⟨rest, hrest⟩
    refine ⟨String.ofList rest, String.toList_injective ?_⟩
    rw [String.toList_append, String.toList_ofList, hrest]

theorem hasStem_iff {stem : String} {r : Rule} :
    r.hasStem stem = true ↔ ∃ rest, r.id = stem ++ rest := by
  rw [hasStem, List.isPrefixOf_iff_prefix, exists_append_iff]

/-- A family name ends with its only hyphen. -/
theorem eq_append_hyphen_of_mem_families {family : String} (h : family ∈ families) :
    ∃ kind, family.toList = kind ++ ['-'] ∧ '-' ∉ kind := by
  simp only [families, List.mem_cons, List.not_mem_nil, or_false] at h
  rcases h with rfl | rfl | rfl | rfl
  · exact ⟨"entry".toList, by decide, by decide⟩
  · exact ⟨"t".toList, by decide, by decide⟩
  · exact ⟨"enter".toList, by decide, by decide⟩
  · exact ⟨"sla".toList, by decide, by decide⟩

/-- The id of a rule determines its family and its free text. -/
theorem makeId_inj {workflowId family family' name name' : String} (hf : family ∈ families)
    (hf' : family' ∈ families)
    (h : makeId workflowId (family ++ name) = makeId workflowId (family' ++ name')) :
    family = family' ∧ name = name' := by
  obtain ⟨kind, hkind, hyphen⟩ := eq_append_hyphen_of_mem_families hf
  obtain ⟨kind', hkind', hyphen'⟩ := eq_append_hyphen_of_mem_families hf'
  have tails : family ++ name = family' ++ name' := (String.append_right_inj _).mp h
  have lists : kind ++ '-' :: name.toList = kind' ++ '-' :: name'.toList := by
    simpa [hkind, hkind'] using congrArg String.toList tails
  -- The kind is what stands before the first hyphen, whatever the free text is.
  have before : ∀ kind rest : List Char, '-' ∉ kind →
      (kind ++ '-' :: rest).takeWhile (· != '-') = kind := by
    intro kind rest hyphen
    rw [List.takeWhile_append_of_pos]
    · simp
    · intro c hc
      exact bne_iff_ne.mpr fun same => hyphen (same ▸ hc)
  have kinds : kind = kind' := by
    rw [← before kind _ hyphen, lists, before kind' _ hyphen']
  have families : family = family' := by
    apply String.toList_injective
    rw [hkind, hkind', kinds]
  rw [families] at tails
  exact ⟨families, (String.append_right_inj _).mp tails⟩

/-- A part of a family name that ends with a hyphen is all of it. -/
private theorem eq_nil_of_hyphen_part {kind front back : List Char} (h : '-' ∉ kind)
    (heq : kind ++ ['-'] = front ++ ['-'] ++ back) : back = [] := by
  rcases List.eq_nil_or_concat back with rfl | ⟨back, last, rfl⟩
  · rfl
  · rw [List.concat_eq_append, ← List.append_assoc] at heq
    have inner := (List.append_inj' heq rfl).1
    exact absurd (by rw [inner]; simp) h

/-- Two texts that go on after a hyphen: one of them begins the other, or the family
name of the second one lies inside the first. -/
private theorem reaches_of_append_eq {a b kind name rest : List Char} (h : '-' ∉ kind)
    (heq : b ++ ['-'] ++ (kind ++ ['-'] ++ name) = a ++ ['-'] ++ rest) :
    (∃ x, b ++ ['-'] = a ++ ['-'] ++ x) ∨
      ∃ x, a ++ ['-'] = b ++ ['-'] ++ (kind ++ ['-']) ++ x := by
  rcases List.append_eq_append_iff.mp heq with ⟨beyond, ha, hbeyond⟩ | ⟨beyond, hb, _⟩
  · rcases List.append_eq_append_iff.mp hbeyond with ⟨x, hx, _⟩ | ⟨x, hx, _⟩
    · exact Or.inr ⟨x, by rw [ha, hx]; simp only [List.append_assoc]⟩
    · rcases List.eq_nil_or_concat beyond with rfl | ⟨front, last, rfl⟩
      · exact Or.inl ⟨[], by rw [ha]; simp⟩
      · rw [List.concat_eq_append] at ha hx
        have hlast : '-' = last := by
          rw [← List.append_assoc] at ha
          exact List.singleton_inj.mp (List.append_inj' ha rfl).2
        subst hlast
        have hnil := eq_nil_of_hyphen_part h hx
        exact Or.inr ⟨[], by rw [ha, hx, hnil]; simp⟩
  · exact Or.inl ⟨beyond, hb⟩

/-- A stem reaches into the rules of a workflow id exactly when it begins one of the
ids that its rules can have. -/
theorem stemReaches_iff {a b : String} : StemReaches a b ↔
    ∃ family ∈ families, ∃ name rest, makeId b (family ++ name) = stem a ++ rest := by
  constructor
  · rintro (⟨rest, h⟩ | ⟨family, hfamily, rest, h⟩)
    · refine ⟨"t-", by decide, "", rest ++ "t-", ?_⟩
      simp only [makeId, stem, String.append_assoc, String.append_empty] at h ⊢
      rw [← @String.append_assoc b, h]
      simp only [String.append_assoc]
    · refine ⟨family, hfamily, rest, "", ?_⟩
      simp only [makeId, stem, String.append_assoc, String.append_empty] at h ⊢
      rw [h]
  · rintro ⟨family, hfamily, name, rest, h⟩
    obtain ⟨kind, hkind, hyphen⟩ := eq_append_hyphen_of_mem_families hfamily
    have lists : b.toList ++ ['-'] ++ (kind ++ ['-'] ++ name.toList) =
        a.toList ++ ['-'] ++ rest.toList := by
      have := congrArg String.toList h
      simpa [makeId, stem, hkind] using this
    rcases reaches_of_append_eq hyphen lists with ⟨x, hx⟩ | ⟨x, hx⟩
    · refine Or.inl ⟨String.ofList x, String.toList_injective ?_⟩
      simpa using hx
    · refine Or.inr ⟨family, hfamily, String.ofList x, String.toList_injective ?_⟩
      simpa [hkind] using hx

end Rule

namespace Workflow

variable {w : Workflow} {rules : List Rule} {r : Rule}

/-- The id of a compiled rule is made from the id of the workflow, a family name and
a free text. -/
theorem id_of_mem_compile (h : w.compile = .ok rules) (hr : r ∈ rules) :
    ∃ family ∈ Rule.families, ∃ name, r.id = Rule.makeId w.id (family ++ name) := by
  rcases (mem_compile h).mp hr with entry | ⟨t, _, _, move⟩ | ⟨n, _, found, hfound, hr⟩
  · obtain ⟨_, _, t, _, _, hrule⟩ := mem_entryRules.mp entry
    obtain ⟨_, _, rfl⟩ := entryRule_eq_some.mp hrule
    exact ⟨"entry-", by decide, t.id, rfl⟩
  · obtain ⟨_, _, _, _, _, _, rfl⟩ := transitionRule_eq_some.mp move
    exact ⟨"t-", by decide, t.id, rfl⟩
  · obtain ⟨d, _, enter | ⟨late, hlate, deadline⟩⟩ := (mem_nodeRules hfound).mp hr
    · obtain ⟨_, rfl⟩ := mem_enterRule.mp enter
      exact ⟨"enter-", by decide, n.id, rfl⟩
    · obtain ⟨_, _, _, _, _, rfl⟩ := (mem_deadlineRule hlate).mp deadline
      exact ⟨"sla-", by decide, n.id, rfl⟩

/-- A trigger that lets tickets into a room. -/
def sampleDoor (room : String) : Node :=
  ⟨room ++ "-door", .trigger ⟨"create", []⟩, ⟨0, 0⟩⟩

/-- A state with a deadline and an action on entering. -/
def sampleState : StateData :=
  ⟨"Open", none, some 60, [.escalate], []⟩

/-- A workflow with a rule of every family, each under the same free text: tickets
come through a door into one room, which they can leave for itself. -/
def sample (id room : String) : Workflow where
  id
  name := "Sample"
  nodes := ⟨[(room ++ "-door", sampleDoor room), (room, ⟨room, .state sampleState, ⟨0, 140⟩⟩)],
    by simp⟩
  transitions := [.plain room (room ++ "-door") room none, .plain room room room none]
  entryId := room ++ "-door"
  enabled := true
  version := 1
  description := none
  createdAt := none
  updatedAt := none

theorem sample_compiles (id room : String) : ∃ rules, (sample id room).compile = .ok rules ∧
    ∀ family ∈ Rule.families, ∃ r ∈ rules, r.id = Rule.makeId id (family ++ room) := by
  have door : (sample id room).nodes.get? (room ++ "-door") = some (sampleDoor room) := by
    simp [sample, Table.get?, Table.lookup]
  have inside : (sample id room).nodes.get? room = some ⟨room, .state sampleState, ⟨0, 140⟩⟩ := by
    simp [sample, Table.get?, Table.lookup]
  have trigger : (sample id room).entryTrigger? = some ⟨"create", []⟩ :=
    entryTrigger?_eq_some.mpr ⟨by simp [sample], _, door, rfl⟩
  have move : ∃ r, (sample id room).transitionRule (.plain room room room none) = .ok (some r) ∧
      r.id = Rule.makeId id ("t-" ++ room) :=
    ⟨_, transitionRule_eq_some.mpr ⟨_, _, _, inside, inside, rfl, rfl⟩, rfl⟩
  have deadline : ∃ r, (sample id room).deadlineRule room sampleState = .ok [r] ∧
      r.id = Rule.makeId id ("sla-" ++ room) :=
    ⟨_, rfl, rfl⟩
  obtain ⟨moved, hmoved, hmovedId⟩ := move
  obtain ⟨late, hlate, hlateId⟩ := deadline
  have ofRoom : (sample id room).nodeRules ⟨room, .state sampleState, ⟨0, 140⟩⟩ =
      .ok ((sample id room).enterRule room sampleState ++ [late]) := by
    rw [nodeRules, NodeData.state?]
    simp [hlate]
  have compiles : ∃ rules, (sample id room).compile = .ok rules := by
    refine exists_compile_eq_ok.mpr ⟨fun t ht _ => ?_, fun n hn => ?_⟩
    · rcases List.mem_pair.mp ht with rfl | rfl
      · exact ⟨_, transitionRule_eq_some.mpr ⟨_, _, _, door, inside, rfl, rfl⟩⟩
      · exact ⟨_, hmoved⟩
    · rcases List.mem_pair.mp hn with rfl | rfl
      · exact ⟨_, rfl⟩
      · exact ⟨_, ofRoom⟩
  obtain ⟨rules, hrules⟩ := compiles
  refine ⟨rules, hrules, ?_⟩
  simp only [Rule.families, List.forall_mem_cons, List.not_mem_nil, false_implies, forall_const,
    and_true, mem_compile hrules]
  refine ⟨?entry, ?move, ?enter, ?sla⟩
  case entry =>
    exact ⟨_, Or.inl (mem_entryRules.mpr ⟨_, trigger, _, List.mem_cons_self, rfl,
      entryRule_eq_some.mpr ⟨_, inside, rfl⟩⟩), rfl⟩
  case move =>
    have elsewhere : room ≠ room ++ "-door" := by
      rw [ne_comm]
      simp
    exact ⟨moved, Or.inr (Or.inl ⟨_, List.mem_pair.mpr (Or.inr rfl),
      by simp [isEntryTransition, sample, Transition.plain, elsewhere], hmoved⟩), hmovedId⟩
  case enter =>
    exact ⟨_, Or.inr (Or.inr ⟨_, List.mem_pair.mpr (Or.inr rfl), _, ofRoom,
      List.mem_append_left _ (mem_enterRule.mpr ⟨by simp [sampleState], rfl⟩)⟩), rfl⟩
  case sla =>
    exact ⟨late, Or.inr (Or.inr ⟨_, List.mem_pair.mpr (Or.inr rfl), _, ofRoom,
      List.mem_append_right _ List.mem_cons_self⟩), hlateId⟩

/-- Every id made from a family name and a free text is the id of a rule that some
workflow compiles to. -/
theorem exists_compiledFrom (id : String) {family : String} (h : family ∈ Rule.families)
    (name : String) : ∃ r : Rule, r.CompiledFrom id ∧ r.id = Rule.makeId id (family ++ name) := by
  obtain ⟨rules, hrules, ids⟩ := sample_compiles id name
  obtain ⟨r, hr, hid⟩ := ids family h
  exact ⟨r, ⟨sample id name, rules, rfl, hrules, hr⟩, hid⟩

end Workflow

end TicketFlow
