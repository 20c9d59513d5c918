import TicketFlow.Proofs.Fallible
import TicketFlow.Proofs.Sketch.Issues
import TicketFlow.Sketch.Agreement

/-!
# Documents of the sketch of a workflow

The sketch of a workflow is written like the workflow: what a workflow leaves out because
it is absent is `null` in the sketch, and its lists are series that were read. So writing
the sketch never fails, and it makes no difference whether a sketch is taken for a
workflow when it is written.
-/

namespace TicketFlow

open Fallible

/-! ## Fields -/

namespace Sketch

variable {α β : Type} {toValue : β → Value} {sketch : α → β} {write : α → Value}

theorem toValues_sketch (h : ∀ a, toValue (sketch a) = write a) (items : List α) :
    (Series.read (items.map sketch)).toValues toValue = .ok (items.map write) := by
  rw [Series.toValues, Series.parts, ok_bind, Part.toValues, List.map_map]
  exact mapM_map_pure _ _ _ fun a _ => congrArg Except.ok (h a)

theorem seriesEntry_sketch (h : ∀ a, toValue (sketch a) = write a) (name : String)
    (items : List α) :
    seriesEntry toValue name (.read (items.map sketch)) =
      .ok (Value.listEntry name (items.map write)) := by
  rw [seriesEntry, Series.isSet, List.isEmpty_map, toValues_sketch h, Value.listEntry,
    List.isEmpty_map]
  cases items.isEmpty <;> rfl

theorem namesEntry_texts (name : String) (texts : List String) :
    namesEntry name (.array (texts.map .string)) =
      .ok (Value.listEntry name (texts.map .string)) := by
  cases texts <;> rfl

end Sketch

/-! ## Documents -/

open Sketch

namespace NodeData

theorem toValue_sketch (d : NodeData) : d.sketch.toValue = .ok d.toValue := by
  cases d with
  | trigger d =>
      rw [sketch, Payload.toValue, seriesEntry_sketch Sketch.Condition.toValue_sketch]
      rfl
  | state d =>
      simp only [sketch, Payload.toValue, seriesEntry_sketch Sketch.Action.toValue_sketch,
        namesEntry_texts, unlessNull_ofOption Value.string_ne_null,
        unlessNull_ofOption Value.number_ne_null, ok_bind]
      rfl
  | condition d =>
      rw [sketch, Payload.toValue, toValues_sketch Sketch.Condition.toValue_sketch]
      rfl
  | action d =>
      rw [sketch, Payload.toValue, toValues_sketch Sketch.Action.toValue_sketch]
      rfl
  | delay d =>
      simp only [sketch, Payload.toValue, unlessNull_ofOption Value.string_ne_null,
        unlessNull_ofOption Value.number_ne_null]
      rfl
  | terminal d => rfl

end NodeData

theorem Node.toValue_sketch (n : Node) : n.sketch.toValue = .ok n.toValue := by
  rw [Sketch.Node.toValue, sketch_data, NodeData.toValue_sketch, sketch_type]
  rfl

theorem Transition.toValue_sketch (t : Transition) : t.sketch.toValue = t.toValue := by
  simp only [sketch, Sketch.Transition.toValue, unlessNull_ofOption Value.string_ne_null,
    List.map_map, Function.comp_def, Sketch.Condition.toValue_sketch, Sketch.Action.toValue_sketch]
  rfl

/-- The sketch of a workflow is written as the document of the workflow. -/
theorem Workflow.toValue_sketch (w : Workflow) : w.sketch.toValue = .ok w.toValue := by
  have nodes : w.sketch.nodes.mapM (fun e => do return (e.1.keyText, ← e.2.toValue)) =
      (.ok (w.nodes.entries.map fun e => (e.1, e.2.toValue)) :
        Attempt (List (String × Value))) := by
    rw [sketch_nodes]
    refine mapM_map_pure _ _ _ fun e _ => ?_
    rw [Node.toValue_sketch]
    rfl
  have transitions : w.sketch.transitions.map Sketch.Transition.toValue =
      w.transitions.map Transition.toValue := by
    rw [sketch_transitions, List.map_map]
    exact List.map_congr_left fun t _ => t.toValue_sketch
  have description : unlessNull "description" w.sketch.description =
      Value.optionEntry "description" (w.description.map .string) :=
    unlessNull_ofOption Value.string_ne_null "description" w.description
  rw [Sketch.toValue, nodes, transitions, description]
  rfl

/-- A sketch is written in the same way whether or not it is taken for a workflow. -/
theorem Sketch.document_eq_toValue (g : Sketch) : g.document = g.toValue := by
  rw [document]
  split
  · rename_i w found
    rw [workflow?_eq_some_iff.mp found, Workflow.toValue_sketch]
  · rfl

end TicketFlow
