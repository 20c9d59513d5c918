import TicketFlow.Proofs.Fallible
import TicketFlow.Proofs.Sketch.Issues

/-!
# Repairs of the sketch of a workflow

A draft of a workflow has a sketch as well, and each repair of the sketch of a draft
makes the sketch of the repaired draft. The only repair that goes another way is the one
of the deadlines: a sketch is changed node by node, a workflow all at once. So what is
proved of it is what the loop has done when it stands at a node: the nodes before that one
have their deadlines, and the others are as they were.
-/

namespace TicketFlow

open Fallible

/-- The sketch of a draft. -/
def Draft.sketch (d : Draft) : Sketch.Draft :=
  ⟨d.workflow.sketch, d.ids.asValues, d.changes.map Change.sketch, .ofOption .string d.addedEnd?⟩

/-- A draft with other nodes and some more changes. -/
def Sketch.Draft.revised (s : Sketch.Draft) (nodes : Keyed Sketch.Node)
    (changes : List TicketFlow.Change) : Sketch.Draft :=
  { s with
    sketch := { s.sketch with nodes }
    changes := s.changes ++ changes.map TicketFlow.Change.sketch }

@[simp] theorem Sketch.Draft.revised_self (s : Sketch.Draft) :
    s.revised s.sketch.nodes [] = s := by
  simp [revised]

/-! ## What repairs ask -/

namespace NodeData

variable (d : NodeData)

theorem hasDeadline_sketch : d.sketch.hasDeadline = d.state?.any StateData.hasDeadline := by
  cases d <;> simp [sketch, state?, Sketch.Payload.hasDeadline, StateData.hasDeadline]

theorem stateLabel?_sketch : d.sketch.stateLabel? = d.state?.map fun s => .string s.label := by
  cases d <;> rfl

end NodeData

namespace Workflow

variable (w : Workflow)

theorem lowest_sketch : w.sketch.lowest = .ok w.lowest := by
  have heights : (w.nodes.values.map Node.sketch).mapM (fun n => n.y.quantity) =
      (.ok (w.nodes.values.map fun n => n.position.y) : Attempt (List Number)) :=
    mapM_map_pure _ _ _ fun _ _ => rfl
  rw [Sketch.lowest, values_sketch, heights, lowest, ← List.foldl_map]
  rfl

theorem isDeadEnd_sketch (key : String) (n : Node) :
    w.sketch.isDeadEnd (.string key) n.sketch = w.isDeadEnd key n := by
  simp [Sketch.isDeadEnd, isDeadEnd]

theorem lacksBranch_sketch (key : String) (n : Node) :
    w.sketch.lacksBranch (.string key) n.sketch = w.lacksBranch key n := by
  simp [Sketch.lacksBranch, lacksBranch]

theorem missingBranch_sketch (key : String) :
    w.sketch.missingBranch (.string key) = w.missingBranch key := by
  simp [Sketch.missingBranch, missingBranch, Function.comp_def]

end Workflow

/-! ## Steps of a repair -/

theorem append_inQuotes (before name after : String) :
    before ++ inQuotes name ++ after = (before ++ "\"") ++ name ++ ("\"" ++ after) := by
  simp only [inQuotes, String.append_assoc]

namespace Draft

variable (d : Draft)

@[simp] theorem sketch_sketch : d.sketch.sketch = d.workflow.sketch := rfl

@[simp] theorem sketch_next : d.sketch.ids.next = .string d.ids.next := rfl

@[simp] theorem sketch_addedEnd : d.sketch.addedEnd = .ofOption .string d.addedEnd? := rfl

theorem record_sketch (kind : ChangeKind) (description nodeId : String) :
    d.sketch.record kind description (.string nodeId) =
      (d.record kind description nodeId).sketch := by
  simp [Sketch.Draft.record, record, sketch, Change.sketch]

theorem link_sketch (source target label : String) (branchKey : Option String) :
    d.sketch.link (.string source) (.string target) label (.ofOption .string branchKey) =
      (d.link source target label branchKey).sketch := by
  simp only [sketch, link, Workflow.sketch, List.map_append]
  rfl

/-- A transition without a branch key. -/
theorem link_sketch_null (source target label : String) :
    d.sketch.link (.string source) (.string target) label .null =
      (d.link source target label none).sketch :=
  d.link_sketch source target label none

theorem addNode_sketch (data : NodeData) (position : Position) :
    d.sketch.addNode data.sketch (.number position.x) (.number position.y) =
      .ok (d.addNode data position).sketch := by
  simp only [sketch, addNode, Workflow.sketch, Table.mapEntries_insert, ← Keyed.put_ofTable]
  rfl

/-- A loop over sketches whose steps make sketches of drafts. -/
theorem foldl_sketch {α β : Type} (item : α → β) {attempt : Sketch.Draft → β → Sketch.Draft}
    {step : Draft → α → Draft} (h : ∀ d a, attempt (sketch d) (item a) = (step d a).sketch)
    (l : List α) (d : Draft) :
    (l.map item).foldl attempt d.sketch = (l.foldl step d).sketch := by
  rw [List.foldl_map]
  exact List.foldl_hom sketch h

/-! ## The repairs -/

theorem addMissingEnd_sketch : d.sketch.addMissingEnd = .ok d.addMissingEnd.sketch := by
  have added := d.addNode_sketch (.terminal ⟨"Closed"⟩) ⟨300, d.workflow.lowest.addInt 140⟩
  simp only [Sketch.Draft.addMissingEnd, addMissingEnd, sketch_sketch, Workflow.firstEnd?_sketch,
    Option.isSome_map]
  cases d.workflow.firstEnd?.isSome
  · simp only [Workflow.lowest_sketch, ok_bind]
    change (d.sketch.addNode (NodeData.terminal ⟨"Closed"⟩).sketch _ _ >>= _) = _
    simp only [added, ok_bind, sketch_next, record_sketch]
    rfl
  · rfl

theorem connectDeadEnds_sketch : d.sketch.connectDeadEnds = d.connectDeadEnds.sketch := by
  simp only [Sketch.Draft.connectDeadEnds, connectDeadEnds, sketch_sketch,
    Workflow.firstEnd?_sketch]
  cases d.workflow.firstEnd? with
  | none => rfl
  | some target =>
      have deadEnds := d.workflow.filter_nodes_sketch d.workflow.isDeadEnd_sketch
      simp only [Option.map_some, deadEnds]
      refine foldl_sketch _ ?_ _ d
      intro d e
      simp only [Node.sketch_id, Node.sketch_title, link_sketch_null, record_sketch, closeDeadEnd,
        append_inQuotes]
      rfl

theorem completeBranches_sketch : d.sketch.completeBranches = d.completeBranches.sketch := by
  simp only [Sketch.Draft.completeBranches, completeBranches, sketch_sketch,
    Workflow.firstEnd?_sketch]
  cases d.workflow.firstEnd? with
  | none => rfl
  | some target =>
      have halfDecisions := d.workflow.filter_nodes_sketch d.workflow.lacksBranch_sketch
      simp only [Option.map_some, halfDecisions]
      refine foldl_sketch _ ?_ _ d
      intro d e
      simp only [Sketch.Draft.completeBranch, completeBranch, Workflow.missingBranch_sketch,
        Node.sketch_id]
      change (Sketch.Draft.link _ _ _ _ (.ofOption .string (some _))).record _ _ _ = _
      simp only [link_sketch, record_sketch, append_inQuotes]
      rfl

/-! ## Deadlines -/

/-- A content is put where its key stands, if the key does not stand before. -/
theorem put_append_cons (before : Keyed Sketch.Node) (key : String) (old new : Sketch.Node)
    (rest : Keyed Sketch.Node) (apart : before.contains (.string key) = false) :
    (before ++ (.string key, old) :: rest).put (.string key) new =
      before ++ (.string key, new) :: rest := by
  induction before with
  | nil => simp [Keyed.put]
  | cons e before ih =>
      obtain ⟨k, n⟩ := e
      rw [Keyed.contains, List.any_cons, Bool.or_eq_false_iff] at apart
      rw [List.cons_append, Keyed.put, apart.1, ih apart.2]
      rfl

theorem deadlineChange_sketch (key : String) (d : StateData) :
    (deadlineChange key d).sketch = ⟨.addDeadline,
      "Set " ++ toString (StateData.suggestedMinutes d.label) ++ "m SLA on " ++ inQuotes d.label,
      .string key⟩ := by
  have quoted : "m SLA on \"" = "m SLA on " ++ "\"" := rfl
  simp only [Change.sketch, deadlineChange, quoted, inQuotes, String.append_assoc]

/-- A node is given a deadline where it stands, and this is noted, if it is a state without
one. -/
theorem addDeadline_sketch {s : Sketch.Draft} {before rest : Keyed Sketch.Node} {key : String}
    {n : Node} (nodes : s.sketch.nodes = before ++ (.string key, n.sketch) :: rest)
    (apart : before.contains (.string key) = false) :
    s.addDeadline (.string key, n.sketch) =
      .ok (s.revised (before ++ (.string key, n.withDeadline.sketch) :: rest)
        (n.openState?.map (deadlineChange key)).toList) := by
  have unchanged (closed : n.openState? = none) :
      s = s.revised (before ++ (.string key, n.withDeadline.sketch) :: rest)
        (n.openState?.map (deadlineChange key)).toList := by
    rw [Node.withDeadline, closed, ← nodes, Option.map_none, Option.toList_none,
      Sketch.Draft.revised_self]
  obtain ⟨id, data, position⟩ := n
  cases data with
  | state d =>
      have timed : (NodeData.state d).sketch.hasDeadline = d.hasDeadline :=
        NodeData.hasDeadline_sketch (.state d)
      cases set : d.hasDeadline
      · have untimed : (⟨id, .state d, position⟩ : Node).openState? = some d := by
          simp [Node.openState?, NodeData.state?, set]
        rw [← put_append_cons _ _ _ _ _ apart, ← nodes, Node.withDeadline, untimed]
        simp only [Sketch.Draft.addDeadline, Node.sketch_data, timed, set, Option.map_some,
          Option.toList_some, Sketch.Draft.revised, List.map_cons, List.map_nil,
          deadlineChange_sketch]
        rfl
      · have closed : (⟨id, .state d, position⟩ : Node).openState? = none := by
          simp [Node.openState?, NodeData.state?, set]
        rw [← unchanged closed]
        simp only [Sketch.Draft.addDeadline, Node.sketch_data, timed, set]
        rfl
  | _ => exact congrArg Except.ok (unchanged rfl)

/-- The loop over the nodes of `rest`, when it has come as far as they stand. -/
theorem foldlM_addDeadline (rest : List (String × Node)) (distinct : (rest.map Prod.fst).Nodup)
    (before : Keyed Sketch.Node) (s : Sketch.Draft)
    (nodes : s.sketch.nodes = before ++ rest.map fun e => (.string e.1, e.2.sketch))
    (apart : ∀ e ∈ rest, before.contains (.string e.1) = false) :
    (rest.map fun e => (.string e.1, e.2.sketch)).foldlM Sketch.Draft.addDeadline s =
      .ok (s.revised (before ++ rest.map fun e => (.string e.1, e.2.withDeadline.sketch))
        (rest.filterMap fun e => e.2.openState?.map (deadlineChange e.1))) := by
  induction rest generalizing before s with
  | nil =>
      simp only [List.map_nil] at nodes ⊢
      rw [← nodes, List.filterMap_nil, Sketch.Draft.revised_self]
      rfl
  | cons e rest ih =>
      obtain ⟨key, n⟩ := e
      obtain ⟨first, later⟩ := List.forall_mem_cons.mp apart
      obtain ⟨new, distinct⟩ := List.nodup_cons.mp distinct
      have apart' : ∀ e ∈ rest, Keyed.contains (before ++ [(.string key, n.withDeadline.sketch)])
          (.string e.1) = false := by
        intro e mem
        have other : key ≠ e.1 := fun same => new (List.mem_map.mpr ⟨e, mem, same.symm⟩)
        rw [Keyed.contains, List.any_append, Bool.or_eq_false_iff]
        exact ⟨later e mem, by simp [other]⟩
      rw [List.map_cons, List.foldlM_cons, addDeadline_sketch nodes first, ok_bind,
        ih distinct _ _ (by simp [Sketch.Draft.revised]) apart', List.filterMap_cons]
      simp only [Sketch.Draft.revised, List.append_assoc, List.singleton_append, List.map_cons]
      cases n.openState? <;> rfl

theorem addDeadlines_sketch : d.sketch.addDeadlines = .ok d.addDeadlines.sketch := by
  have nodes : d.sketch.sketch.nodes =
      [] ++ d.workflow.nodes.entries.map fun e => (.string e.1, e.2.sketch) := by
    rw [sketch_sketch, Workflow.sketch_nodes, List.nil_append]
  have loop := foldlM_addDeadline d.workflow.nodes.entries d.workflow.nodes.nodup_keys [] d.sketch
    nodes fun _ _ => rfl
  have dated : Keyed.ofTable ((d.workflow.nodes.mapEntries fun _ n => n.withDeadline).mapEntries
      fun _ n => n.sketch) =
      [] ++ d.workflow.nodes.entries.map fun e => (.string e.1, e.2.withDeadline.sketch) := by
    simp [Keyed.ofTable]
  rw [Sketch.Draft.addDeadlines, nodes, List.nil_append, loop, ← dated]
  simp only [Sketch.Draft.revised, addDeadlines, sketch, List.map_append]
  rfl

/-! ## Escalation -/

theorem escalation?_sketch (nodes : List Node) :
    Sketch.escalation? (nodes.map Node.sketch) =
      .ok ((nodes.find? fun n => n.data.state?.any StateData.isEscalation).map Node.sketch) := by
  induction nodes with
  | nil => rfl
  | cons n rest ih =>
      rw [List.map_cons, Sketch.escalation?, Node.sketch_data, NodeData.stateLabel?_sketch,
        List.find?_cons]
      cases state : n.data.state? with
      | none => exact ih
      | some s =>
          simp only [Option.map_some, Option.any_some, StateData.isEscalation]
          change (if Text.mentions s.label "escalat" then _ else _) = _
          cases Text.mentions s.label "escalat"
          · exact ih
          · rfl

theorem breaches_sketch (id : String) (timed : List Node) :
    (timed.map Node.sketch).foldl (fun d n => d.link n.id (.string id) "SLA Breach" .null)
        d.sketch =
      (timed.foldl (fun d n => d.link n.id id "SLA Breach" none) d).sketch :=
  foldl_sketch Node.sketch (fun d n => d.link_sketch_null n.id id "SLA Breach") timed d

theorem addEscalation_sketch : d.sketch.addEscalation = .ok d.addEscalation.sketch := by
  have timed : (d.workflow.nodes.values.map Node.sketch).filter (fun n => n.data.hasDeadline) =
      (d.workflow.nodes.values.filter isTimedState).map Node.sketch := by
    simp only [List.filter_map, Function.comp_def, Node.sketch_data, NodeData.hasDeadline_sketch]
    rfl
  have taken : (d.workflow.nodes.values.find? fun n =>
      n.data.state?.any StateData.isEscalation).isSome =
      d.workflow.nodes.values.any fun n => n.data.state?.any StateData.isEscalation := by
    rw [Bool.eq_iff_iff, List.find?_isSome, List.any_eq_true]
  simp only [Sketch.Draft.addEscalation, addEscalation, sketch_sketch, Workflow.values_sketch,
    timed, List.isEmpty_map, escalation?_sketch, ok_bind, Option.isSome_map, taken,
    Workflow.firstEnd?_sketch]
  cases (d.workflow.nodes.values.filter isTimedState).isEmpty
  · cases d.workflow.nodes.values.any fun n => n.data.state?.any StateData.isEscalation
    · cases d.workflow.firstEnd? with
      | none => rfl
      | some target =>
          have x : target.sketch.x.quantity = .ok target.position.x := rfl
          have y : target.sketch.y.quantity = .ok target.position.y := rfl
          have added : d.sketch.addNode (.state (.string "Escalated") (.string "bg-red-500") .null
              (.read []) (.array [])) (.number (target.position.x.addInt 200))
              (.number (target.position.y.addInt (-70))) =
              .ok (d.addNode (.state ⟨"Escalated", some "bg-red-500", none, [], []⟩)
                ⟨target.position.x.addInt 200, target.position.y.addInt (-70)⟩).sketch :=
            d.addNode_sketch (.state ⟨"Escalated", some "bg-red-500", none, [], []⟩) ⟨_, _⟩
          simp only [Option.map_some, x, y, ok_bind, added, Bool.false_eq_true, if_false,
            sketch_next, breaches_sketch, Node.sketch_id, link_sketch_null, record_sketch]
          rfl
    · rfl
  · rfl

/-! ## The last step -/

theorem preferred_sketch (entryId : String) (candidate best : Node) :
    Sketch.preferred (.string entryId) candidate.sketch best.sketch =
      .ok (preferred entryId candidate best) := by
  simp only [Sketch.preferred, preferred, Node.sketch_isState, Node.sketch_id, Value.same_string,
    bne]
  cases candidate.isState == best.isState
  · rfl
  · cases candidate.id == entryId <;> cases best.id == entryId <;> rfl

theorem bestSource?_sketch (entryId : String) (nodes : List Node) :
    Sketch.bestSource? (.string entryId) (nodes.map Node.sketch) =
      .ok ((bestSource? entryId nodes).map Node.sketch) := by
  cases nodes with
  | nil => rfl
  | cons n rest =>
      have step (best c : Node) : (do
          return if ← Sketch.preferred (.string entryId) c.sketch best.sketch then c.sketch
            else best.sketch : Attempt Sketch.Node) =
          pure (if preferred entryId c best then c else best).sketch := by
        rw [preferred_sketch, ok_bind, apply_ite Node.sketch]
      rw [List.map_cons, Sketch.bestSource?,
        foldlM_map_pure Node.sketch Node.sketch _ _ step rest n]
      rfl

theorem connectAddedEnd_sketch : d.sketch.connectAddedEnd = .ok d.connectAddedEnd.sketch := by
  rw [Sketch.Draft.connectAddedEnd, connectAddedEnd, sketch_addedEnd]
  cases d.addedEnd? with
  | none => rfl
  | some endId =>
      have candidates : (d.workflow.nodes.values.map Node.sketch).filter
          (fun n => !n.id.same (.string endId) && !n.isEnd) =
          (d.workflow.nodes.values.filter fun n => n.id != endId && !n.isEnd).map
            Node.sketch := by
        simp only [List.filter_map, Function.comp_def, Node.sketch_id, Value.same_string,
          Node.sketch_isEnd]
        rfl
      simp only [Value.ofOption, Option.map_some, Option.getD_some, sketch_sketch,
        Workflow.contains_sketch, Workflow.incoming_sketch, List.isEmpty_map,
        Workflow.values_sketch, candidates, Workflow.sketch_entryId, bestSource?_sketch, ok_bind]
      split
      · rfl
      · cases bestSource? d.workflow.entryId (d.workflow.nodes.values.filter fun n =>
            n.id != endId && !n.isEnd) with
        | none => rfl
        | some source =>
            simp only [Option.map_some, Node.sketch_id, Node.sketch_title, link_sketch_null,
              record_sketch, append_inQuotes]
            rfl

/-- The repairs of the sketch of a draft. -/
theorem repair_sketch : d.sketch.repair = .ok d.repair.sketch := by
  simp only [Sketch.Draft.repair, addMissingEnd_sketch, ok_bind, connectDeadEnds_sketch,
    addDeadlines_sketch, addEscalation_sketch, completeBranches_sketch, connectAddedEnd_sketch,
    repair]

end Draft

namespace Workflow

/-- The repair of the sketch of a workflow makes the sketch of the repaired workflow. -/
theorem repair_sketch (w : Workflow) (ids : IdSupply String) (now : Option Timestamp) :
    w.sketch.repair ids.asValues now = .ok (w.repair ids now).sketch := by
  have start : Sketch.Draft.start w.sketch ids.asValues = (Draft.start w ids).sketch := rfl
  have version (w : Workflow) : w.sketch.version.quantity = .ok w.version := rfl
  rw [Sketch.repair, start, Draft.repair_sketch, ok_bind, repair]
  generalize (Draft.start w ids).repair = d
  rw [Draft.sketch_sketch, version, ok_bind]
  rfl

end Workflow

/-- A sketch is repaired in the same way whether or not it is taken for a workflow. -/
theorem Sketch.repaired_eq_repair (g : Sketch) (ids : IdSource) (now : Option Timestamp) :
    g.repaired ids now = g.repair ids.values now := by
  rw [repaired]
  split
  · rename_i w texts found all
    rw [workflow?_eq_some_iff.mp found, IdSource.values_of_texts? all, Workflow.repair_sketch]
  · rfl

end TicketFlow
