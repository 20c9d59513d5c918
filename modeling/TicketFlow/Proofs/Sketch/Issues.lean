import TicketFlow.Proofs.Table
import TicketFlow.Sketch.Report

/-!
# Issues of the sketch of a workflow

In the sketch of a workflow every key is a text, and texts are only the same when they
are equal. So every lookup finds the sketch of what the workflow holds, and what is asked
of the sketch has the answer of the workflow. The issues come first. Together with the
sketches that are no workflows this says that the issues of a sketch never depend on
whether it is taken for a workflow.
-/

namespace TicketFlow

/-! ## The parts of a sketch -/

namespace Value

@[simp] theorem isSet_string (s : String) : (string s).isSet = (s != "") := rfl

@[simp] theorem isSet_ofOption_string (content : Option String) :
    (ofOption .string content).isSet = content.any fun s => s != "" := by
  cases content <;> rfl

@[simp] theorem isSet_ofOption_number (content : Option Number) :
    (ofOption .number content).isSet = content.any fun n => !n.isZero := by
  cases content <;> rfl

@[simp] theorem isText_string (s text : String) : (string s).isText text = (s == text) := rfl

@[simp] theorem isText_ofOption_string (content : Option String) (text : String) :
    (ofOption .string content).isText text = (content == some text) := by
  cases content <;> rfl

end Value

namespace NodeData

variable (d : NodeData)

@[simp] theorem sketch_type : d.sketch.type = d.type := by
  cases d <;> rfl

@[simp] theorem sketch_label : d.sketch.label = .string d.label := by
  cases d with
  | state d =>
      by_cases unnamed : d.label = "" <;>
        simp [sketch, label, Sketch.Payload.label, unnamed]
  | _ => rfl

@[simp] theorem sketch_lacksActions :
    d.sketch.lacksActions = Workflow.lacksActions d := by
  cases d <;> simp [sketch, Workflow.lacksActions, Sketch.Payload.lacksActions, Sketch.Series.isSet]

end NodeData

namespace Node

variable (n : Node)

@[simp] theorem sketch_id : n.sketch.id = .string n.id := rfl

@[simp] theorem sketch_data : n.sketch.data = n.data.sketch := rfl

@[simp] theorem sketch_type : n.sketch.type = n.type :=
  n.data.sketch_type

@[simp] theorem sketch_isEnd : n.sketch.isEnd = n.isEnd := by
  rw [Sketch.Node.isEnd, isEnd, sketch_type]

@[simp] theorem sketch_isState : n.sketch.isState = n.isState := by
  rw [Sketch.Node.isState, isState, sketch_type]

@[simp] theorem sketch_title : n.sketch.title = n.label := by
  rw [Sketch.Node.title, sketch_data, NodeData.sketch_label]
  rfl

end Node

namespace Transition

variable (t : Transition)

@[simp] theorem sketch_source : t.sketch.source = .string t.source := rfl

@[simp] theorem sketch_target : t.sketch.target = .string t.target := rfl

@[simp] theorem sketch_branchKey : t.sketch.branchKey = .ofOption .string t.branchKey := rfl

@[simp] theorem sketch_conditions : t.sketch.conditions = t.conditions.map Condition.sketch := rfl

@[simp] theorem sketch_actions : t.sketch.actions = t.actions.map Action.sketch := rfl

end Transition

/-! ## Lookups -/

namespace Workflow

variable (w : Workflow)

@[simp] theorem sketch_entryId : w.sketch.entryId = .string w.entryId := rfl

@[simp] theorem sketch_transitions :
    w.sketch.transitions = w.transitions.map Transition.sketch := rfl

theorem sketch_nodes :
    w.sketch.nodes = w.nodes.entries.map fun e => (.string e.1, e.2.sketch) := by
  simp [sketch, Keyed.ofTable]

@[simp] theorem values_sketch : w.sketch.nodes.values = w.nodes.values.map Node.sketch := by
  simp [sketch, Table.values]

/-- The nodes that are selected in the sketch, where the test agrees with one of the nodes. -/
theorem filter_nodes_sketch {test : Value → Sketch.Node → Bool} {p : String → Node → Bool}
    (h : ∀ key n, test (.string key) n.sketch = p key n) :
    (w.sketch.nodes.filter fun e => test e.1 e.2) =
      (w.nodes.entries.filter fun e => p e.1 e.2).map fun e => (.string e.1, e.2.sketch) := by
  simp only [sketch_nodes, List.filter_map, Function.comp_def, h]

@[simp] theorem get?_sketch (key : String) :
    w.sketch.nodes.get? (.string key) = (w.nodes.get? key).map Node.sketch := by
  rw [sketch, Keyed.get?_ofTable]
  exact Table.lookup_map Node.sketch key w.nodes.entries

@[simp] theorem contains_sketch (key : String) :
    w.sketch.nodes.contains (.string key) = w.nodes.contains key := by
  rw [← Keyed.isSome_get?, get?_sketch, Option.isSome_map, Table.isSome_get?]

theorem node?_sketch (key : String) :
    w.sketch.node? (.string key) = .ok ((w.nodes.get? key).map Node.sketch) := by
  rw [← get?_sketch]
  rfl

theorem entry?_sketch : w.sketch.entry? = .ok (( entry? w).map Node.sketch) := by
  rw [Sketch.entry?, sketch_entryId, node?_sketch, entry?]
  by_cases unset : w.entryId = "" <;> simp [unset]

@[simp] theorem outgoing_sketch (key : String) :
    w.sketch.outgoing (.string key) = (w.outgoing key).map Transition.sketch := by
  simp [outgoing, Sketch.outgoing, List.filter_map, Function.comp_def]

@[simp] theorem incoming_sketch (key : String) :
    w.sketch.incoming (.string key) = (w.incoming key).map Transition.sketch := by
  simp [incoming, Sketch.incoming, List.filter_map, Function.comp_def]

@[simp] theorem endNodes_sketch : w.sketch.endNodes = w.endNodes.map Node.sketch := by
  simp [endNodes, Sketch.endNodes, List.filter_map, Function.comp_def]

@[simp] theorem firstEnd?_sketch : w.sketch.firstEnd? = w.firstEnd?.map Node.sketch := by
  simp [firstEnd?, Sketch.firstEnd?, List.find?_map]

/-! ## Issues -/

theorem entryIssues_sketch : w.sketch.entryIssues = w.entryIssues.map Issue.sketch := by
  rw [Sketch.entryIssues, entryIssues, sketch_entryId, Value.isSet_string]
  by_cases unset : w.entryId = ""
  · rw [bne_eq_false_iff_eq.mpr unset, if_pos unset]
    rfl
  · rw [bne_iff_ne.mpr unset, if_neg unset, contains_sketch, map_issueIf]
    rfl

theorem referenceIssues_sketch (t : Transition) :
    w.sketch.referenceIssues t.sketch = (w.referenceIssues t).map Issue.sketch := by
  simp only [Sketch.referenceIssues, referenceIssues, List.map_append, map_issueIf,
    Transition.sketch_source, Transition.sketch_target, contains_sketch]
  rfl

theorem isReferenced_sketch (key : String) :
    w.sketch.isReferenced (.string key) = w.isReferenced key := by
  simp [Sketch.isReferenced, isReferenced, Function.comp_def]

theorem orphanIssues_sketch (key : String) :
    w.sketch.orphanIssues (.string key) = (w.orphanIssues key).map Issue.sketch := by
  simp only [Sketch.orphanIssues, orphanIssues, map_issueIf, isReferenced_sketch]
  rfl

theorem entersAtTrigger_sketch : w.sketch.entersAtTrigger = w.entryTrigger?.isSome := by
  have isTrigger (n : Node) : (n.type == .trigger) = n.data.trigger?.isSome := by
    rw [Node.type]
    cases n.data <;> rfl
  rw [Sketch.entersAtTrigger, sketch_entryId, get?_sketch, entryTrigger?, entry?]
  by_cases unset : w.entryId = ""
  · simp [unset]
  · cases w.nodes.get? w.entryId <;> simp [unset, isTrigger]

theorem triggerIssues_sketch : w.sketch.triggerIssues = w.triggerIssues.map Issue.sketch := by
  simp only [Sketch.triggerIssues, triggerIssues, map_issueIf, entersAtTrigger_sketch,
    sketch_entryId, outgoing_sketch, List.isEmpty_map]
  rfl

theorem endIssues_sketch : w.sketch.endIssues = w.endIssues.map Issue.sketch := by
  simp only [Sketch.endIssues, endIssues, map_issueIf, endNodes_sketch, List.isEmpty_map]
  rfl

theorem nodeIssues_sketch (key : String) (n : Node) :
    w.sketch.nodeIssues (.string key) n.sketch = (w.nodeIssues key n).map Issue.sketch := by
  simp only [Sketch.nodeIssues, nodeIssues, List.map_append, map_issueIf, outgoing_sketch,
    incoming_sketch, sketch_entryId, List.isEmpty_map, List.length_map, Node.sketch_isEnd,
    Node.sketch_type, Node.sketch_title, Node.sketch_data, NodeData.sketch_lacksActions,
    Value.same_string]
  rfl

/-- The issues that the sketch of a workflow has are the issues of the workflow. -/
theorem issues_sketch : w.sketch.issues = .ok (w.issues.map Issue.sketch) := by
  have keys : w.sketch.hasKeys = true := by
    simp [Sketch.hasKeys, Value.isContainer]
  rw [Sketch.issues, if_pos keys, sketch_transitions, keys_sketch, sketch_nodes]
  simp only [issues, List.map_append, List.map_flatMap, List.flatMap_map, entryIssues_sketch,
    referenceIssues_sketch, orphanIssues_sketch, triggerIssues_sketch, endIssues_sketch,
    nodeIssues_sketch]

end Workflow

/-- A sketch has the same issues whether or not it is taken for a workflow. -/
theorem Sketch.findings_eq_issues (g : Sketch) : g.findings = g.issues := by
  rw [findings]
  split
  · rename_i w found
    rw [workflow?_eq_some_iff.mp found, Workflow.issues_sketch]
  · rfl

end TicketFlow
