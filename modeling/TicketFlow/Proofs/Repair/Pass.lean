import TicketFlow.Proofs.Table
import TicketFlow.Repair.Run

/-!
# One repair at a time

What each repair does to a draft, as an equation. Three of the repairs link a list
of items in order, one transition and one id for each, so a loop over such a list
is a single extension of the draft. A deadline changes a state and nothing else of
a node. Nothing is assumed of the ids here.
-/

namespace TicketFlow

namespace IdSupply

variable {ι : Type}

@[simp] theorem take_zero (s : IdSupply ι) : s.take 0 = [] := rfl

theorem take_succ (s : IdSupply ι) (count : Nat) :
    s.take (count + 1) = s.next :: s.advance.take count := by
  simp only [take, next, advance, List.range_succ_eq_map, List.map_cons, List.map_map,
    Nat.add_zero, Function.comp_def, Nat.succ_eq_add_one]
  simp [Nat.add_assoc, Nat.add_comm 1]

@[simp] theorem drop_zero (s : IdSupply ι) : s.drop 0 = s := rfl

theorem drop_succ (s : IdSupply ι) (count : Nat) : s.drop (count + 1) = s.advance.drop count := by
  simp [drop, advance, Nat.add_assoc, Nat.add_comm 1]

theorem drop_drop (s : IdSupply ι) (m n : Nat) : (s.drop m).drop n = s.drop (m + n) := by
  simp [drop, Nat.add_assoc]

@[simp] theorem drop_one (s : IdSupply ι) : s.drop 1 = s.advance := rfl

@[simp] theorem take_one (s : IdSupply ι) : s.take 1 = [s.next] := rfl

/-- What some items make when each gets an id. -/
def assign {α β : Type} (s : IdSupply ι) (m : α → ι → β) (items : List α) : List β :=
  List.zipWith m items (s.take items.length)

variable {α β γ : Type} {s : IdSupply ι} {m : α → ι → β}

@[simp] theorem assign_nil : s.assign m [] = [] := rfl

theorem assign_cons (a : α) (rest : List α) :
    s.assign m (a :: rest) = m a s.next :: s.advance.assign m rest := by
  simp [assign, take_succ]

theorem assign_eq_nil_iff {items : List α} : s.assign m items = [] ↔ items = [] := by
  cases items with
  | nil => simp
  | cons a rest => simp [assign_cons]

theorem assign_map (m : β → ι → γ) (f : α → β) (items : List α) :
    s.assign m (items.map f) = s.assign (fun a => m (f a)) items := by
  induction items generalizing s with
  | nil => rfl
  | cons a rest ih => rw [List.map_cons, assign_cons, assign_cons, ih]

/-- What does not depend on the ids can be read off the items. -/
theorem map_assign {f : β → γ} {g : α → γ} (h : ∀ a id, f (m a id) = g a)
    (items : List α) : (s.assign m items).map f = items.map g := by
  induction items generalizing s with
  | nil => rfl
  | cons a rest ih => rw [assign_cons, List.map_cons, List.map_cons, ih, h]

theorem mem_assign {items : List α} {b : β} (h : b ∈ s.assign m items) :
    ∃ a ∈ items, ∃ i, s.drawn ≤ i ∧ b = m a (s.ids i) := by
  induction items generalizing s with
  | nil => exact absurd h List.not_mem_nil
  | cons a rest ih =>
      rw [assign_cons, List.mem_cons] at h
      rcases h with rfl | h
      · exact ⟨a, List.mem_cons_self, s.drawn, Nat.le_refl _, rfl⟩
      · obtain ⟨a', ha', i, hi, rfl⟩ := ih h
        exact ⟨a', List.mem_cons_of_mem a ha', i, Nat.le_of_succ_le hi, rfl⟩

theorem exists_mem_assign {items : List α} {a : α} (h : a ∈ items) :
    ∃ i, s.drawn ≤ i ∧ m a (s.ids i) ∈ s.assign m items := by
  induction items generalizing s with
  | nil => exact absurd h List.not_mem_nil
  | cons a' rest ih =>
      rw [assign_cons]
      rcases List.mem_cons.mp h with rfl | h
      · exact ⟨s.drawn, Nat.le_refl _, List.mem_cons_self⟩
      · obtain ⟨i, hi, mem⟩ := ih (s := s.advance) h
        exact ⟨i, Nat.le_of_succ_le hi, List.mem_cons_of_mem _ mem⟩

end IdSupply

namespace Node

@[simp] theorem id_withDeadline (n : Node) : n.withDeadline.id = n.id := by
  rw [withDeadline]
  split <;> rfl

@[simp] theorem position_withDeadline (n : Node) : n.withDeadline.position = n.position := by
  rw [withDeadline]
  split <;> rfl

theorem openState?_eq_some {n : Node} {d : StateData} (h : n.openState? = some d) :
    n.data = .state d ∧ d.hasDeadline = false := by
  obtain ⟨state, closed⟩ := Option.filter_eq_some_iff.mp h
  cases data : n.data <;> simp_all [NodeData.state?]

/-- Either nothing happens, or a state without a deadline gets one. -/
theorem withDeadline_cases (n : Node) :
    n.openState? = none ∧ n.withDeadline = n ∨
      ∃ d, n.openState? = some d ∧ n.data = .state d ∧ d.hasDeadline = false ∧
        n.withDeadline = { n with data := .state d.withSuggestedDeadline } := by
  cases h : n.openState? with
  | none => exact .inl ⟨rfl, by simp [withDeadline, h]⟩
  | some d =>
      obtain ⟨data, closed⟩ := openState?_eq_some h
      exact .inr ⟨d, rfl, data, closed, by simp [withDeadline, h]⟩

/-- What does not depend on deadlines is the same of the payload with a deadline. -/
theorem apply_withDeadline {β : Type} (f : NodeData → β)
    (blind : ∀ d : StateData, f (.state d.withSuggestedDeadline) = f (.state d)) (n : Node) :
    f n.withDeadline.data = f n.data := by
  obtain ⟨-, same⟩ | ⟨d, -, data, -, changed⟩ := n.withDeadline_cases
  · rw [same]
  · rw [changed, data]
    exact blind d

@[simp] theorem type_withDeadline (n : Node) : n.withDeadline.type = n.type :=
  apply_withDeadline NodeData.type (fun _ => rfl) n

@[simp] theorem label_withDeadline (n : Node) : n.withDeadline.label = n.label :=
  apply_withDeadline NodeData.label (fun _ => rfl) n

@[simp] theorem isEnd_withDeadline (n : Node) : n.withDeadline.isEnd = n.isEnd := by
  simp [isEnd]

@[simp] theorem isState_withDeadline (n : Node) : n.withDeadline.isState = n.isState := by
  simp [isState]

/-- Only states change. -/
theorem withDeadline_of_not_isState {n : Node} (h : n.isState = false) : n.withDeadline = n := by
  obtain ⟨-, same⟩ | ⟨d, -, data, -, -⟩ := n.withDeadline_cases
  · exact same
  · simp [isState, type, data, NodeData.type] at h

theorem not_isState_of_isEnd {n : Node} (h : n.isEnd = true) : n.isState = false := by
  simp_all [isEnd, isState]

/-- With the deadlines given, every state has one. -/
@[simp] theorem isTimedState_withDeadline (n : Node) :
    Draft.isTimedState n.withDeadline = n.isState := by
  obtain ⟨closed, same⟩ | ⟨d, -, data, -, changed⟩ := n.withDeadline_cases
  · rw [same]
    cases data : n.data <;>
      simp_all [openState?, Draft.isTimedState, isState, type, NodeData.type, NodeData.state?,
        Option.filter]
  · simp [changed, Draft.isTimedState, isState, type, data, NodeData.type, NodeData.state?]

/-- Whether a node is a state that takes up escalated tickets. -/
def isEscalation (n : Node) : Bool :=
  n.data.state?.any StateData.isEscalation

@[simp] theorem isEscalation_withDeadline (n : Node) :
    n.withDeadline.isEscalation = n.isEscalation :=
  apply_withDeadline (fun data => data.state?.any StateData.isEscalation) (fun _ => rfl) n

end Node

/-- Whether some state has a deadline and no state takes up escalated tickets. -/
def Workflow.lacksEscalation (w : Workflow) : Bool :=
  w.nodes.values.any Draft.isTimedState &&
    !w.nodes.values.any Node.isEscalation

namespace Draft

variable {α : Type}

/-- A draft with one more transition for each of some items, under the next ids, and
with the changes that are noted for the items. -/
def extend (d : Draft) (edge : α → String → Transition) (notes : α → List Change)
    (items : List α) : Draft :=
  { d with
    workflow := { d.workflow with
      transitions := d.workflow.transitions ++ d.ids.assign edge items }
    ids := d.ids.drop items.length
    changes := d.changes ++ items.flatMap notes }

/-- A loop that extends a draft item by item extends it by the list. -/
theorem foldl_eq_extend {step : Draft → α → Draft} {edge : α → String → Transition}
    {notes : α → List Change} (h : ∀ d a, step d a = d.extend edge notes [a]) (items : List α)
    (d : Draft) : items.foldl step d = d.extend edge notes items := by
  induction items generalizing d with
  | nil => simp [extend]
  | cons a rest ih =>
      rw [List.foldl_cons, ih, h]
      simp [extend, IdSupply.assign_cons, IdSupply.drop_succ]

/-- The transition that closes a dead end, and the change that is noted for it. -/
def closing (target : String) (e : String × Node) (id : String) : Transition :=
  .plain id e.1 target (some "Close")

def closingNote (e : String × Node) : Change :=
  ⟨.connectDeadEnd, "Connected dead-end \"" ++ e.2.label ++ "\" to end node", e.1⟩

/-- The transition on which a state escalates. -/
def breach (target : String) (n : Node) (id : String) : Transition :=
  .plain id n.id target (some "SLA Breach")

@[simp] theorem breach_withDeadline (target : String) (n : Node) :
    breach target n.withDeadline = breach target n := by
  funext id
  simp [breach]

/-- The transition that completes a condition node, and its change. -/
def branch (w : Workflow) (target : String) (e : String × Node) (id : String) : Transition :=
  { Transition.plain id e.1 target (some (branchLabel (w.missingBranch e.1))) with
    branchKey := some (w.missingBranch e.1) }

def branchNote (w : Workflow) (e : String × Node) : Change :=
  ⟨.fixBranch, "Added missing \"" ++ branchLabel (w.missingBranch e.1) ++
    "\" branch to condition node", e.1⟩

/-- The state that takes up escalated tickets, beside an end node. -/
def escalationNode (id : String) (beside : Node) : Node :=
  ⟨id, .state ⟨"Escalated", some "bg-red-500", none, [], []⟩,
    ⟨beside.position.x.addInt 200, beside.position.y.addInt (-70)⟩⟩

/-- The transition on which an escalated ticket is resolved. -/
def resolution (source target id : String) : Transition :=
  .plain id source target (some "Resolve")

def escalationNote (id : String) : Change :=
  ⟨.addEscalation, "Added escalation path for SLA breach handling", id⟩

theorem connectDeadEnds_eq {d : Draft} {target : Node}
    (h : d.workflow.firstEnd? = some target) :
    d.connectDeadEnds = d.extend (closing target.id) (fun e => [closingNote e])
      (d.workflow.nodes.entries.filter fun e => d.workflow.isDeadEnd e.1 e.2) := by
  have step : ∀ d e, closeDeadEnd target.id d e =
      d.extend (closing target.id) (fun e => [closingNote e]) [e] := fun _ _ => rfl
  rw [connectDeadEnds, h]
  exact foldl_eq_extend step _ _

theorem completeBranches_eq {d : Draft} {target : Node}
    (h : d.workflow.firstEnd? = some target) :
    d.completeBranches = d.extend (branch d.workflow target.id)
      (fun e => [branchNote d.workflow e])
      (d.workflow.nodes.entries.filter fun e => d.workflow.lacksBranch e.1 e.2) := by
  have step : ∀ d' e, completeBranch d.workflow target.id d' e =
      d'.extend (branch d.workflow target.id) (fun e => [branchNote d.workflow e]) [e] :=
    fun _ _ => rfl
  rw [completeBranches, h]
  exact foldl_eq_extend step _ _

/-- An escalation state is added when some state has a deadline and no state takes up
escalated tickets yet. -/
theorem addEscalation_eq {d : Draft} {target : Node} (h : d.workflow.firstEnd? = some target) :
    d.addEscalation =
      if d.workflow.lacksEscalation then
        let timed := d.workflow.nodes.values.filter isTimedState
        let id := d.ids.next
        { d with
          workflow := { d.workflow with
            nodes := d.workflow.nodes.insert id (escalationNode id target)
            transitions := d.workflow.transitions ++
              d.ids.advance.assign (breach id) timed ++
              [resolution id target.id (d.ids.advance.drop timed.length).next] }
          ids := d.ids.drop (timed.length + 2)
          changes := d.changes ++ [escalationNote id] }
      else d := by
  have loop : ∀ (id : String) (items : List Node) (d : Draft),
      items.foldl (fun d n => d.link n.id id "SLA Breach" none) d =
        d.extend (breach id) (fun _ => []) items := fun id items d =>
    foldl_eq_extend (fun d n => by
      simp [extend, link, breach, Transition.plain, IdSupply.assign_cons]) items d
  have nothing : (d.workflow.nodes.values.filter isTimedState).isEmpty =
      !d.workflow.nodes.values.any isTimedState := by
    rw [Bool.eq_iff_iff]
    simp
  rw [addEscalation, Workflow.lacksEscalation]
  rw [h]
  dsimp only
  rw [loop, nothing]
  cases timed : d.workflow.nodes.values.any isTimedState with
  | false => rfl
  | true =>
      change (if d.workflow.nodes.values.any Node.isEscalation = true then d else _) = _
      cases d.workflow.nodes.values.any Node.isEscalation with
      | true => rfl
      | false =>
          simp only [Bool.false_eq_true, if_false, Bool.not_false, Bool.and_true,
            if_true]
          simp [extend, link, record, addNode, escalationNode, resolution, escalationNote,
            Transition.plain, IdSupply.drop, IdSupply.advance, Nat.add_assoc, Nat.add_comm 1]

/-- What does not change which of two nodes is preferred does not change which is best. -/
theorem bestSource?_map {f : Node → Node} {entryId entryId' : String}
    (same : ∀ candidate best,
      preferred entryId' (f candidate) (f best) = preferred entryId candidate best)
    (nodes : List Node) :
    bestSource? entryId' (nodes.map f) = (bestSource? entryId nodes).map f := by
  cases nodes with
  | nil => rfl
  | cons n rest =>
      rw [List.map_cons, bestSource?, bestSource?, Option.map_some, List.foldl_map]
      refine congrArg some (List.foldl_hom f fun best candidate => ?_)
      rw [same]
      exact (apply_ite f _ candidate best).symm

/-- The last transition, and the change that is noted for it. -/
def lastLink (target : String) (source : Node) (id : String) : Transition :=
  .plain id source.id target (some "Close")

def lastNote (source : Node) : Change :=
  ⟨.connectEndNode, "Connected \"" ++ source.label ++ "\" to new end node", source.id⟩

@[simp] theorem lastLink_withDeadline (target : String) (n : Node) :
    lastLink target n.withDeadline = lastLink target n := by
  funext id
  simp [lastLink]

@[simp] theorem lastNote_withDeadline (n : Node) : lastNote n.withDeadline = lastNote n := by
  simp [lastNote]

/-- An end node that was added is connected unless something leads to it. -/
theorem connectAddedEnd_eq {d : Draft} {endId : String} (added : d.addedEnd? = some endId)
    (present : d.workflow.nodes.contains endId = true) :
    d.connectAddedEnd =
      if (d.workflow.incoming endId).isEmpty then
        d.extend (lastLink endId) (fun n => [lastNote n])
          (bestSource? d.workflow.entryId
            (d.workflow.nodes.values.filter fun n => n.id != endId && !n.isEnd)).toList
      else d := by
  rw [connectAddedEnd]
  rw [added]
  dsimp only
  rw [present]
  cases (d.workflow.incoming endId).isEmpty with
  | false => rfl
  | true =>
      cases bestSource? d.workflow.entryId
        (d.workflow.nodes.values.filter fun n => n.id != endId && !n.isEnd) with
      | none => simp [extend]
      | some source => rfl

end Draft

end TicketFlow
