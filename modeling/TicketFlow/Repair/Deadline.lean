import TicketFlow.Repair.Basic

/-!
# Deadlines of states

A state without a deadline, or with a deadline of zero minutes, gets one that
its label suggests. Each keyword stands for a number of minutes, and the first
keyword that the label mentions decides.
-/

namespace TicketFlow

namespace StateData

/-- The keywords of labels with the minutes they stand for, in the order in which
they are tried. -/
def keywordMinutes : List (String × Nat) :=
  [("new", 60), ("triage", 60), ("progress", 240), ("waiting", 480), ("escalat", 120)]

/-- The minutes of a label without any keyword. -/
def otherMinutes : Nat := 240

/-- The deadline that a label suggests, in minutes. -/
def suggestedMinutes (label : String) : Nat :=
  ((keywordMinutes.find? fun k => Text.mentions label k.1).map Prod.snd).getD otherMinutes

/-- Whether a state has a deadline. -/
def hasDeadline (d : StateData) : Bool :=
  d.slaMinutes.any fun minutes => !minutes.isZero

/-- Whether a state takes up escalated tickets, by its label. -/
def isEscalation (d : StateData) : Bool :=
  Text.mentions d.label "escalat"

/-- A state with the deadline that its label suggests. -/
def withSuggestedDeadline (d : StateData) : StateData :=
  { d with slaMinutes := some (.int (suggestedMinutes d.label)) }

theorem suggestedMinutes_mem (label : String) : suggestedMinutes label ∈ [60, 120, 240, 480] := by
  rw [suggestedMinutes]
  cases h : keywordMinutes.find? fun k => Text.mentions label k.1 with
  | none => simp [otherMinutes]
  | some k =>
      have mem := List.mem_of_find?_eq_some h
      simp only [keywordMinutes, List.mem_cons, List.not_mem_nil, or_false] at mem
      rcases mem with rfl | rfl | rfl | rfl | rfl <;> simp

@[simp] theorem hasDeadline_withSuggestedDeadline (d : StateData) :
    d.withSuggestedDeadline.hasDeadline = true := by
  have positive : suggestedMinutes d.label ≠ 0 := by
    intro zero
    have mem := suggestedMinutes_mem d.label
    simp [zero] at mem
  simp [hasDeadline, withSuggestedDeadline, positive]

end StateData

namespace Node

/-- The payload of a state without a deadline. -/
def openState? (n : Node) : Option StateData :=
  n.data.state?.filter fun d => !d.hasDeadline

/-- A node with a deadline, if it is a state without one. -/
def withDeadline (n : Node) : Node :=
  match n.openState? with
  | some d => { n with data := .state d.withSuggestedDeadline }
  | none => n

end Node

namespace Draft

/-- The change that is noted for a state that gets a deadline. -/
def deadlineChange (key : String) (d : StateData) : Change :=
  ⟨.addDeadline, "Set " ++ toString (StateData.suggestedMinutes d.label) ++ "m SLA on \"" ++
    d.label ++ "\"", key⟩

/-- Give every state without a deadline the one that its label suggests. -/
def addDeadlines (d : Draft) : Draft :=
  { d with
    workflow := { d.workflow with
      nodes := d.workflow.nodes.mapEntries fun _ n => n.withDeadline }
    changes := d.changes ++ d.workflow.nodes.entries.filterMap fun e =>
      e.2.openState?.map (deadlineChange e.1) }

end Draft

end TicketFlow
