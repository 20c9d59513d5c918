import TicketFlow.Proofs.Workflow.Conformance

/-!
# Repairs keep workflows conforming

A repair works with three steps on a draft: it links two keys, adds a node or sets
deadlines. Each of them keeps a draft conforming whose ids are not empty, so every
repair does. The ids need not be fresh for that.
-/

namespace TicketFlow

/-- A conforming workflow under repair, with ids that can be given to its parts. -/
structure Draft.Conforms (d : Draft) : Prop where
  workflow : d.workflow.Conforms
  ids_ne_empty : ∀ i, d.ids.drawn ≤ i → d.ids.ids i ≠ ""

theorem stemmedId_ne_empty {stem : String} (h : stem ≠ "") (n : Nat) : stemmedId stem n ≠ "" := by
  intro empty
  have length := congrArg String.length empty
  rw [stemmedId, String.length_append] at length
  exact h (String.length_eq_zero_iff.mp (Nat.eq_zero_of_add_eq_zero_right length))

/-- A deadline that a label suggests is a count. -/
theorem Node.Conforms.withDeadline {key : String} {n : Node} (h : n.Conforms key) :
    n.withDeadline.Conforms key := by
  obtain ⟨-, same⟩ | ⟨d, -, data, -, changed⟩ := n.withDeadline_cases
  · rw [same]
    exact h
  · have conforms := h.data
    rw [data] at conforms
    rw [changed]
    refine ⟨h.id_eq_key, h.id_ne_empty, ?_, conforms.2⟩
    intro minutes given
    cases given
    exact Number.isCount_int (Int.natCast_nonneg _)

namespace Draft.Conforms

variable {d : Draft}

/-! ## Single steps -/

theorem start {w : Workflow} {ids : IdSupply String} (h : w.Conforms)
    (ids_ne_empty : ∀ i, ids.drawn ≤ i → ids.ids i ≠ "") : (Draft.start w ids).Conforms :=
  ⟨h, ids_ne_empty⟩

theorem next_ne_empty (h : d.Conforms) : d.ids.next ≠ "" :=
  h.ids_ne_empty d.ids.drawn (Nat.le_refl _)

theorem record (h : d.Conforms) (kind : ChangeKind) (description nodeId : String) :
    (d.record kind description nodeId).Conforms :=
  ⟨h.workflow, h.ids_ne_empty⟩

theorem link (h : d.Conforms) (source target label : String) (branchKey : Option String) :
    (d.link source target label branchKey).Conforms := by
  refine ⟨⟨h.workflow.id_ne_empty, h.workflow.name_ne_empty, h.workflow.version,
    h.workflow.nodes, ?_⟩, fun i hi => h.ids_ne_empty i (Nat.le_of_succ_le hi)⟩
  intro t ht
  rcases List.mem_append.mp ht with ht | ht
  · exact h.workflow.transitions t ht
  · rw [List.mem_singleton.mp ht]
    exact ⟨h.next_ne_empty, List.forall_mem_nil _, List.forall_mem_nil _⟩

theorem addNode (h : d.Conforms) {data : NodeData} (conforms : data.Conforms)
    (position : Position) : (d.addNode data position).Conforms := by
  refine ⟨⟨h.workflow.id_ne_empty, h.workflow.name_ne_empty, h.workflow.version, ?_,
    h.workflow.transitions⟩, fun i hi => h.ids_ne_empty i (Nat.le_of_succ_le hi)⟩
  intro e he
  rcases Table.mem_entries_of_insert he with rfl | he
  · exact ⟨rfl, h.next_ne_empty, conforms⟩
  · exact h.workflow.nodes e he

/-- A loop of steps that keep drafts conforming is such a step. -/
theorem foldl {α : Type} {step : Draft → α → Draft}
    (preserves : ∀ d a, d.Conforms → (step d a).Conforms) (items : List α) (h : d.Conforms) :
    (items.foldl step d).Conforms := by
  induction items generalizing d with
  | nil => exact h
  | cons a rest ih => exact ih (preserves d a h)

/-! ## The repairs -/

theorem addMissingEnd (h : d.Conforms) : d.addMissingEnd.Conforms := by
  rw [Draft.addMissingEnd]
  split
  · exact h
  · have closed : NodeData.Conforms (.terminal ⟨"Closed"⟩) := trivial
    have added := h.addNode closed ⟨300, d.workflow.lowest.addInt 140⟩
    exact ⟨added.workflow, added.ids_ne_empty⟩

theorem connectDeadEnds (h : d.Conforms) : d.connectDeadEnds.Conforms := by
  rw [Draft.connectDeadEnds]
  split
  · exact h
  · exact foldl (fun d e hd => (hd.link e.1 _ "Close" none).record _ _ _) _ h

theorem addDeadlines (h : d.Conforms) : d.addDeadlines.Conforms := by
  refine ⟨⟨h.workflow.id_ne_empty, h.workflow.name_ne_empty, h.workflow.version, ?_,
    h.workflow.transitions⟩, h.ids_ne_empty⟩
  intro e he
  obtain ⟨e, old, rfl⟩ := List.mem_map.mp he
  exact (h.workflow.nodes e old).withDeadline

theorem addEscalation (h : d.Conforms) : d.addEscalation.Conforms := by
  rw [Draft.addEscalation]
  dsimp only
  split
  · exact h
  · split
    · exact h
    · split
      · exact h
      · have escalation : NodeData.Conforms
            (.state ⟨"Escalated", some "bg-red-500", none, [], []⟩) :=
          ⟨fun minutes given => (by cases given), List.forall_mem_nil _⟩
        refine (link (foldl ?_ _ (h.addNode escalation _)) _ _ _ _).record _ _ _
        exact fun d n hd => hd.link _ _ _ _

theorem completeBranches (h : d.Conforms) : d.completeBranches.Conforms := by
  rw [Draft.completeBranches]
  split
  · exact h
  · exact foldl (fun d e hd => (hd.link e.1 _ _ _).record _ _ _) _ h

theorem connectAddedEnd (h : d.Conforms) : d.connectAddedEnd.Conforms := by
  rw [Draft.connectAddedEnd]
  dsimp only
  split
  · exact h
  · split
    · exact h
    · split
      · exact h
      · exact (h.link _ _ _ _).record _ _ _

theorem repair (h : d.Conforms) : d.repair.Conforms :=
  h.addMissingEnd.connectDeadEnds.addDeadlines.addEscalation.completeBranches.connectAddedEnd

end Draft.Conforms

/-- A repaired workflow conforms, and so do the ids that are left. -/
theorem Workflow.Conforms.repair {w : Workflow} {ids : IdSupply String} (h : w.Conforms)
    (ids_ne_empty : ∀ i, ids.drawn ≤ i → ids.ids i ≠ "") (now : Option Timestamp) :
    (w.repair ids now).workflow.Conforms := by
  have drafted := (Draft.Conforms.start h ids_ne_empty).repair.workflow
  rw [Workflow.repair]
  generalize (Draft.start w ids).repair = d at drafted
  exact ⟨drafted.id_ne_empty, drafted.name_ne_empty,
    Number.isCount_addInt_one drafted.version, drafted.nodes, drafted.transitions⟩

end TicketFlow
