import TicketFlow.Sketch.Checked
import TicketFlow.Sketch.IdSource
import TicketFlow.Template

/-!
# Sketches made from templates

A template can be filled with ids that are no texts. What comes of it is a sketch,
and it fails when the id of a node cannot serve as a key. With ids that are all
texts it is the sketch of the workflow that the template makes of them.
-/

namespace TicketFlow.Template

/-- Make a sketch from a template at a time, whatever the ids are. -/
def fill (t : Template) (ids : IdSupply Value) (now : Option Timestamp) : Attempt Sketch := do
  let nodeIds ← (ids.take t.nodes.length).mapM Value.asKey
  let edgeIds := (ids.drop t.nodes.length).take t.edges.length
  let idOf (i : Nat) : Value := nodeIds.getD i .null
  let nodes := List.zipWith
    (fun id n => Sketch.Node.mk id n.1.sketch (.number n.2.x) (.number n.2.y)) nodeIds t.nodes
  return { id := (ids.drop (t.nodes.length + t.edges.length)).next
           name := .string t.name
           nodes := nodes.foldl (fun nodes n => nodes.put n.id n) []
           transitions := List.zipWith
             (fun id e => Sketch.Transition.mk id (idOf e.source) (idOf e.target)
               (.ofOption .string e.label) (.ofOption .string e.branchKey) [] [])
             edgeIds t.edges
           entryId := idOf 0
           enabled := .bool false
           version := .number 1
           description := .string t.description
           createdAt := now
           updatedAt := now }

/-- Make a sketch from a template at a time, under ids of a source. -/
def sketch (t : Template) (ids : IdSource) (now : Option Timestamp) : Attempt Sketch :=
  match ids.texts? with
  | some texts => .ok (t.instantiate texts now).sketch
  | none => t.fill ids.values now

/-- With ids that are all texts, a template makes the sketch of its workflow. -/
theorem sketch_eq_of_texts (t : Template) {ids : IdSource} {texts : IdSupply String}
    (h : ids.texts? = some texts) (now : Option Timestamp) :
    t.sketch ids now = .ok (t.instantiate texts now).sketch := by
  simp [sketch, h]

end TicketFlow.Template
