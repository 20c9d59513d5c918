import TicketFlow.Proofs.Table
import TicketFlow.Workflow.Issue

/-!
# Renamed nodes

A node is only ever looked up by its key, and keys are only compared with each other and
with the empty name, which stands for no entry. So a renaming that keeps different keys
different, and the empty name apart from all others, commutes with every lookup in a
workflow. What is asked of a workflow without naming a node has the same answer after it.
-/

namespace TicketFlow

/-- A way to rename nodes. Different names stay different, and the empty name is the only
one that is renamed to the empty name. -/
structure Renaming where
  toFun : String → String
  injective : Function.Injective toFun
  eq_empty_iff : ∀ name, toFun name = "" ↔ name = ""

instance : CoeFun Renaming fun _ => String → String :=
  ⟨Renaming.toFun⟩

namespace Renaming

variable (r : Renaming)

@[simp] theorem apply_eq_iff {a b : String} : r a = r b ↔ a = b :=
  r.injective.eq_iff

@[simp] theorem apply_eq_empty_iff {name : String} : r name = "" ↔ name = "" :=
  r.eq_empty_iff name

@[simp] theorem apply_beq (a b : String) : (r a == r b) = (a == b) := by
  rw [Bool.eq_iff_iff, beq_iff_eq, beq_iff_eq, apply_eq_iff]

@[simp] theorem apply_bne (a b : String) : (r a != r b) = (a != b) := by
  rw [bne, bne, apply_beq]

end Renaming

namespace Table

universe u

variable {α : Type u} {f : String → String}

/-- The table with other names. -/
def rekey (f : String → String) (inj : Function.Injective f) (t : Table α) : Table α :=
  ⟨t.entries.map fun e => (f e.1, e.2), by
    have names : (t.entries.map fun e => (f e.1, e.2)).map Prod.fst =
        (t.entries.map Prod.fst).map f := by
      simp [Function.comp_def]
    exact names ▸ t.nodup_keys.map inj⟩

variable {inj : Function.Injective f}

@[simp] theorem entries_rekey (t : Table α) :
    (t.rekey f inj).entries = t.entries.map fun e => (f e.1, e.2) := rfl

@[simp] theorem get?_rekey (t : Table α) (key : String) :
    (t.rekey f inj).get? (f key) = t.get? key := by
  change lookup (f key) (t.entries.map fun e => (f e.1, e.2)) = lookup key t.entries
  induction t.entries with
  | nil => rfl
  | cons e rest ih => simp only [List.map_cons, lookup, inj.eq_iff, ih]

end Table

namespace Node

/-- A node under another name. -/
def rename (r : Renaming) (n : Node) : Node :=
  { n with id := r n.id }

variable (r : Renaming) (n : Node)

@[simp] theorem rename_id : (n.rename r).id = r n.id := rfl

@[simp] theorem rename_data : (n.rename r).data = n.data := rfl

@[simp] theorem rename_position : (n.rename r).position = n.position := rfl

@[simp] theorem rename_type : (n.rename r).type = n.type := rfl

@[simp] theorem rename_label : (n.rename r).label = n.label := rfl

@[simp] theorem rename_isEnd : (n.rename r).isEnd = n.isEnd := rfl

@[simp] theorem rename_isState : (n.rename r).isState = n.isState := rfl

end Node

namespace Transition

/-- A transition between renamed nodes. It keeps its own id. -/
def rename (r : Renaming) (t : Transition) : Transition :=
  { t with source := r t.source, target := r t.target }

variable (r : Renaming) (t : Transition)

@[simp] theorem rename_id : (t.rename r).id = t.id := rfl

@[simp] theorem rename_source : (t.rename r).source = r t.source := rfl

@[simp] theorem rename_target : (t.rename r).target = r t.target := rfl

@[simp] theorem rename_branchKey : (t.rename r).branchKey = t.branchKey := rfl

@[simp] theorem rename_conditions : (t.rename r).conditions = t.conditions := rfl

@[simp] theorem rename_actions : (t.rename r).actions = t.actions := rfl

end Transition

namespace Workflow

/-- A workflow with renamed nodes: the keys and ids of the nodes, the entry and both ends
of every transition have their new names. -/
def rename (r : Renaming) (w : Workflow) : Workflow :=
  { w with
    nodes := (w.nodes.mapEntries fun _ n => n.rename r).rekey r r.injective
    transitions := w.transitions.map (Transition.rename r)
    entryId := r w.entryId }

variable (r : Renaming) (w : Workflow)

@[simp] theorem rename_entryId : (w.rename r).entryId = r w.entryId := rfl

@[simp] theorem rename_transitions :
    (w.rename r).transitions = w.transitions.map (Transition.rename r) := rfl

@[simp] theorem entries_rename : (w.rename r).nodes.entries =
    w.nodes.entries.map fun e => (r e.1, e.2.rename r) := by
  simp [rename]

@[simp] theorem keys_rename : (w.rename r).nodes.keys = w.nodes.keys.map r := by
  simp [Table.keys]

@[simp] theorem values_rename : (w.rename r).nodes.values = w.nodes.values.map (Node.rename r) := by
  simp [Table.values]

theorem keyedById_rename {w : Workflow} (keyed : w.KeyedById) : (w.rename r).KeyedById := by
  intro e mem
  rw [entries_rename] at mem
  obtain ⟨old, hold, rfl⟩ := List.mem_map.mp mem
  exact congrArg r (keyed old hold)

/-! ## Lookups -/

@[simp] theorem get?_rename (key : String) :
    (w.rename r).nodes.get? (r key) = (w.nodes.get? key).map (Node.rename r) := by
  change (Table.rekey r r.injective _).get? (r key) = _
  rw [Table.get?_rekey]
  exact Table.lookup_map (Node.rename r) key w.nodes.entries

@[simp] theorem contains_rename (key : String) :
    (w.rename r).nodes.contains (r key) = w.nodes.contains key := by
  rw [← Table.isSome_get?, ← Table.isSome_get?, get?_rename, Option.isSome_map]

@[simp] theorem outgoing_rename (key : String) :
    (w.rename r).outgoing (r key) = (w.outgoing key).map (Transition.rename r) := by
  simp [outgoing, List.filter_map, Function.comp_def]

@[simp] theorem incoming_rename (key : String) :
    (w.rename r).incoming (r key) = (w.incoming key).map (Transition.rename r) := by
  simp [incoming, List.filter_map, Function.comp_def]

@[simp] theorem isReferenced_rename (key : String) :
    (w.rename r).isReferenced (r key) = w.isReferenced key := by
  simp [isReferenced, Function.comp_def]

theorem entry?_rename : entry? (w.rename r) = ( entry? w).map (Node.rename r) := by
  unfold entry?
  simp only [rename_entryId, Renaming.apply_eq_empty_iff, get?_rename]
  split <;> rfl

@[simp] theorem entryTrigger?_rename : (w.rename r).entryTrigger? = w.entryTrigger? := by
  rw [entryTrigger?, entryTrigger?, entry?_rename, Option.bind_map]
  rfl

@[simp] theorem endNodes_rename : (w.rename r).endNodes = w.endNodes.map (Node.rename r) := by
  simp [endNodes, List.filter_map, Function.comp_def]

@[simp] theorem firstEnd?_rename : (w.rename r).firstEnd? = w.firstEnd?.map (Node.rename r) := by
  rw [← head?_endNodes, ← head?_endNodes, endNodes_rename, List.head?_map]

end Workflow

/-! ## Issues -/

namespace Issue

/-- How much an issue matters and which node has it. The wording, which may name nodes, is
left out. -/
def place (issue : Issue) : Severity × Option String :=
  (issue.severity, issue.nodeId?)

/-- The place of an issue after a renaming. -/
def placeAfter (r : Renaming) (issue : Issue) : Severity × Option String :=
  (issue.severity, issue.nodeId?.map r)

end Issue

namespace Workflow

variable (r : Renaming) (w : Workflow)

theorem place_entryIssues :
    (w.rename r).entryIssues.map Issue.place = w.entryIssues.map (Issue.placeAfter r) := by
  rw [entryIssues, entryIssues]
  by_cases unset : w.entryId = ""
  · simp only [rename_entryId, Renaming.apply_eq_empty_iff, unset, if_true]
    rfl
  · simp only [rename_entryId, Renaming.apply_eq_empty_iff, unset, if_false, map_issueIf,
      contains_rename]
    rfl

theorem place_referenceIssues (t : Transition) :
    ((w.rename r).referenceIssues (t.rename r)).map Issue.place =
      (w.referenceIssues t).map (Issue.placeAfter r) := by
  simp only [referenceIssues, List.map_append, map_issueIf, Transition.rename_source,
    Transition.rename_target, contains_rename]
  rfl

theorem place_orphanIssues (key : String) :
    ((w.rename r).orphanIssues (r key)).map Issue.place =
      (w.orphanIssues key).map (Issue.placeAfter r) := by
  simp only [orphanIssues, map_issueIf, isReferenced_rename]
  rfl

theorem place_triggerIssues :
    (w.rename r).triggerIssues.map Issue.place = w.triggerIssues.map (Issue.placeAfter r) := by
  simp only [triggerIssues, map_issueIf, entryTrigger?_rename, rename_entryId, outgoing_rename,
    List.isEmpty_map]
  rfl

theorem place_endIssues :
    (w.rename r).endIssues.map Issue.place = w.endIssues.map (Issue.placeAfter r) := by
  simp only [endIssues, map_issueIf, endNodes_rename, List.isEmpty_map]
  rfl

theorem place_nodeIssues (key : String) (n : Node) :
    ((w.rename r).nodeIssues (r key) (n.rename r)).map Issue.place =
      (w.nodeIssues key n).map (Issue.placeAfter r) := by
  simp only [nodeIssues, List.map_append, map_issueIf, outgoing_rename, incoming_rename,
    rename_entryId, Renaming.apply_bne, List.isEmpty_map, List.length_map]
  rfl

/-- A renamed workflow has the same issues in the same order, about the renamed nodes. -/
theorem place_issues :
    (w.rename r).issues.map Issue.place = w.issues.map (Issue.placeAfter r) := by
  simp only [issues, List.map_append, List.map_flatMap, List.flatMap_map, rename_transitions,
    keys_rename, entries_rename, place_entryIssues, place_referenceIssues, place_orphanIssues,
    place_triggerIssues, place_endIssues, place_nodeIssues]

end Workflow

end TicketFlow
