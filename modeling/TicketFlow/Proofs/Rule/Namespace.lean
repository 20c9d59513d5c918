import TicketFlow.Proofs.Rule.Ownership
import TicketFlow.Proofs.Workflow.RoundTrip

/-!
# Whose names rules use

Rule ids and state tags join the id of a workflow with free text behind a separator that
the id may contain itself. The rules of two workflows with different ids can share an id,
or the tag of a node, exactly when one workflow id, the separator and, in rule ids, a
family name begin what the other one makes. Otherwise no two workflows with these ids ever
do, whatever documents they were read from.
-/

namespace TicketFlow

namespace Rule

/-- The workflow id `a` and a family name begin the stem of `b`. -/
def IdsMeet (a b : String) : Prop :=
  ∃ family ∈ families, ∃ rest, b ++ "-" = a ++ "-" ++ family ++ rest

instance (a b : String) : Decidable (IdsMeet a b) :=
  decidable_of_iff
    (∃ family ∈ families, (a ++ "-" ++ family).toList <+: (b ++ "-").toList)
    (by simp only [IdsMeet, exists_append_iff])

/-- Two workflow ids of which the rule ids coincide somewhere are the same, or one of them
begins the stem of the other with a family name behind it. -/
theorem idsMeet_of_makeId_eq {a b family family' name name' : String} (hf : family ∈ families)
    (hf' : family' ∈ families) (different : a ≠ b)
    (h : makeId a (family ++ name) = makeId b (family' ++ name')) :
    IdsMeet a b ∨ IdsMeet b a := by
  have reaches : StemReaches a b := stemReaches_iff.mpr ⟨family', hf', name', _, h.symm⟩
  have reaches' : StemReaches b a := stemReaches_iff.mpr ⟨family, hf, name, _, h⟩
  rcases reaches with ⟨rest, hrest⟩ | meets
  · rcases reaches' with ⟨rest', hrest'⟩ | meets
    · have len := congrArg String.length hrest
      have len' := congrArg String.length hrest'
      simp only [String.length_append] at len len'
      have empty : rest = "" := by
        rw [← String.length_eq_zero_iff]
        omega
      rw [empty, String.append_empty, String.append_left_inj] at hrest
      exact absurd hrest.symm different
    · exact .inl meets
  · exact .inr meets

end Rule

/-- The tags of the workflow id `a` can go on like those of `b`. -/
def TagsMeet (a b : String) : Prop :=
  ∃ rest, b ++ ":state:" = a ++ ":state:" ++ rest

instance (a b : String) : Decidable (TagsMeet a b) :=
  decidable_of_iff ((a ++ ":state:").toList <+: (b ++ ":state:").toList)
    Rule.exists_append_iff.symm

/-- Both beginnings of a common tag are prefixes of it, so one of them begins the other. -/
theorem tagsMeet_of_stateTag_eq {a b nodeId nodeId' : String}
    (h : stateTag a nodeId = stateTag b nodeId') : TagsMeet a b ∨ TagsMeet b a := by
  have tags : a ++ ":state:" ++ nodeId = b ++ ":state:" ++ nodeId' := by
    simpa [stateTag, String.append_assoc] using h
  have first : (a ++ ":state:").toList <+: (a ++ ":state:" ++ nodeId).toList :=
    Rule.exists_append_iff.mp ⟨nodeId, rfl⟩
  have second : (b ++ ":state:").toList <+: (a ++ ":state:" ++ nodeId).toList :=
    Rule.exists_append_iff.mp ⟨nodeId', tags⟩
  exact (List.prefix_or_prefix_of_prefix first second).imp Rule.exists_append_iff.mpr
    Rule.exists_append_iff.mpr

namespace Workflow

variable {w : Workflow} {a b : String}

/-- The workflow was read from some document. -/
def IsRead (w : Workflow) : Prop :=
  ∃ doc, read doc = .ok w

/-- A rule of the workflow has this id. -/
def HasRuleId (w : Workflow) (id : String) : Prop :=
  ∃ rules, w.compile = .ok rules ∧ ∃ r ∈ rules, r.id = id

/-- A rule of the workflow asks for this tag of a node of it, puts it on or takes it off. -/
def UsesTag (w : Workflow) (tag : String) : Prop :=
  ∃ rules, w.compile = .ok rules ∧ ∃ r ∈ rules, ∃ n ∈ w.nodes.values, tag = stateTag w.id n.id ∧
    (.standsAt w.id n.id ∈ r.conditions ∨ .enter w.id n.id ∈ r.actions ∨
      .leave w.id n.id ∈ r.actions)

/-- Two workflows that were read and have these ids never use the same name. -/
def Apart (uses : Workflow → String → Prop) (a b : String) : Prop :=
  ∀ w w' : Workflow, w.IsRead → w'.IsRead → w.id = a → w'.id = b →
    ∀ name, uses w name → ¬uses w' name

theorem Apart.symm {uses : Workflow → String → Prop} (h : Apart uses a b) : Apart uses b a :=
  fun w w' read read' id id' name used used' => h w' w read' read id' id name used' used

/-- Whatever conforms can be read. -/
theorem isRead_iff : w.IsRead ↔ w.Conforms :=
  ⟨fun ⟨_, h⟩ => conforms_of_read h, fun h => ⟨w.toValue, read_toValue h⟩⟩

theorem isRead_sample {id room : String} (hid : id ≠ "") (hroom : room ≠ "") :
    (sample id room).IsRead := by
  refine isRead_iff.mpr ⟨hid, by simp [sample], Number.isCount_int (by decide), ?nodes, ?ts⟩
  case nodes =>
    intro e he
    rcases List.mem_pair.mp he with rfl | rfl
    · exact ⟨rfl, by simp [sampleDoor], List.forall_mem_nil _⟩
    · refine ⟨rfl, hroom, ?_, ?_⟩
      · rintro minutes ⟨⟩
        exact Number.isCount_int (by decide)
      · rintro a ha
        rw [List.mem_singleton.mp ha]
        exact ⟨by decide, List.nil_sublist _, List.forall_mem_nil _⟩
  case ts =>
    intro t ht
    rcases List.mem_pair.mp ht with rfl | rfl
    all_goals exact ⟨hroom, List.forall_mem_nil _, List.forall_mem_nil _⟩

theorem sample_hasRuleId {family : String} (h : family ∈ Rule.families) (id room : String) :
    (sample id room).HasRuleId (Rule.makeId id (family ++ room)) := by
  obtain ⟨rules, compiled, ids⟩ := sample_compiles id room
  exact ⟨rules, compiled, ids family h⟩

theorem sample_usesTag (id room : String) : (sample id room).UsesTag (stateTag id room) := by
  obtain ⟨rules, compiled, -⟩ := sample_compiles id room
  have mem : (⟨room, .state sampleState, ⟨0, 140⟩⟩ : Node) ∈ (sample id room).nodes.values :=
    List.mem_pair.mpr (.inr rfl)
  obtain ⟨found, hfound, among⟩ := exists_nodeRules compiled mem
  have enter := (mem_nodeRules hfound).mpr
    ⟨sampleState, rfl, .inl (mem_enterRule.mpr ⟨List.cons_ne_nil _ _, rfl⟩)⟩
  exact ⟨rules, compiled, _, among _ enter, _, mem, rfl, .inl List.mem_cons_self⟩

theorem hasRuleId_meet {w' : Workflow} {name : String} (different : w.id ≠ w'.id)
    (h : w.HasRuleId name) (h' : w'.HasRuleId name) :
    Rule.IdsMeet w.id w'.id ∨ Rule.IdsMeet w'.id w.id := by
  obtain ⟨rules, compiled, r, hr, rfl⟩ := h
  obtain ⟨rules', compiled', r', hr', same⟩ := h'
  obtain ⟨family, hf, text, hid⟩ := id_of_mem_compile compiled hr
  obtain ⟨family', hf', text', hid'⟩ := id_of_mem_compile compiled' hr'
  exact Rule.idsMeet_of_makeId_eq hf hf' different (hid ▸ hid' ▸ same.symm)

theorem usesTag_meet {w' : Workflow} {name : String} (h : w.UsesTag name)
    (h' : w'.UsesTag name) : TagsMeet w.id w'.id ∨ TagsMeet w'.id w.id := by
  obtain ⟨_, _, _, _, n, _, rfl, _⟩ := h
  obtain ⟨_, _, _, _, n', _, same, _⟩ := h'
  exact tagsMeet_of_stateTag_eq same

/-- Where the ids meet, a free text of the one workflow makes up for what the stem of the
other has in front. -/
theorem not_apart_of_idsMeet (ha : a ≠ "") (hb : b ≠ "") (h : Rule.IdsMeet a b) :
    ¬Apart HasRuleId a b := by
  obtain ⟨family, hf, rest, meet⟩ := h
  intro apart
  have used := sample_hasRuleId hf a (rest ++ "t-x")
  have used' := sample_hasRuleId (by decide : "t-" ∈ Rule.families) b "x"
  have same : Rule.makeId b ("t-" ++ "x") = Rule.makeId a (family ++ (rest ++ "t-x")) := by
    simp only [Rule.makeId, Rule.stem, String.append_assoc] at meet ⊢
    rw [← @String.append_assoc b, meet]
    simp only [String.append_assoc]
    rfl
  exact apart _ _ (isRead_sample ha (by simp)) (isRead_sample hb (by decide)) rfl rfl _ used
    (same ▸ used')

theorem not_apart_of_tagsMeet (ha : a ≠ "") (hb : b ≠ "") (h : TagsMeet a b) :
    ¬Apart UsesTag a b := by
  obtain ⟨rest, meet⟩ := h
  intro apart
  have same : stateTag b "x" = stateTag a (rest ++ "x") := by
    simp only [stateTag, String.append_assoc] at meet ⊢
    rw [← @String.append_assoc b, meet]
    simp only [String.append_assoc]
  exact apart _ _ (isRead_sample ha (by simp)) (isRead_sample hb (by decide)) rfl rfl _
    (sample_usesTag a _) (same ▸ sample_usesTag b "x")

/-- Two workflows that were read and have these two different ids never share a rule id,
whatever they are, exactly when neither id and a family name begin the stem of the other,
and never a state tag exactly when neither begins what the other puts before its nodes. -/
theorem namespaces_apart_iff (ha : a ≠ "") (hb : b ≠ "") (different : a ≠ b) :
    (Apart HasRuleId a b ↔ ¬Rule.IdsMeet a b ∧ ¬Rule.IdsMeet b a) ∧
      (Apart UsesTag a b ↔ ¬TagsMeet a b ∧ ¬TagsMeet b a) := by
  refine ⟨⟨fun apart => ?_, fun ⟨h, h'⟩ => ?_⟩, ⟨fun apart => ?_, fun ⟨h, h'⟩ => ?_⟩⟩
  · exact ⟨fun meet => not_apart_of_idsMeet ha hb meet apart,
      fun meet => not_apart_of_idsMeet hb ha meet apart.symm⟩
  · rintro w w' - - rfl rfl name used used'
    exact (hasRuleId_meet different used used').elim h h'
  · exact ⟨fun meet => not_apart_of_tagsMeet ha hb meet apart,
      fun meet => not_apart_of_tagsMeet hb ha meet apart.symm⟩
  · rintro w w' - - rfl rfl name used used'
    exact (usesTag_meet used used').elim h h'

/-- The stem of `a` begins the rule ids of `a-b`, but no two of their rules share an id. -/
theorem namespaces_of_a_and_a_b_apart :
    Apart HasRuleId "a" "a-b" ∧ Apart UsesTag "a" "a-b" := by
  obtain ⟨ids, tags⟩ := namespaces_apart_iff (a := "a") (b := "a-b") (by decide) (by decide)
    (by decide)
  exact ⟨ids.mpr (by decide +kernel), tags.mpr (by decide +kernel)⟩

/-- The rule of the transition `t-x` of `a` and that of the transition `x` of `a-t` have the
same id, and the tag of the node `state:x` of `a` is that of the node `x` of `a:state`. -/
theorem namespaces_of_a_meet :
    ¬Apart HasRuleId "a" "a-t" ∧ ¬Apart UsesTag "a" "a:state" := by
  constructor
  · exact not_apart_of_idsMeet (by decide) (by decide) ⟨"t-", by decide, "", rfl⟩
  · exact not_apart_of_tagsMeet (by decide) (by decide) ⟨"state:", rfl⟩

end Workflow

end TicketFlow
