import TicketFlow.Proofs.Fallible
import TicketFlow.Proofs.Sketch.Issues
import TicketFlow.Sketch.Template

/-!
# Sketches made from templates with texts as ids

Filling a template with texts makes the sketch of the workflow that the template makes of
them, provided that its edges lead between nodes that it has. The templates that there are
have such edges.
-/

namespace TicketFlow

open Fallible

namespace IdSupply

variable (ids : IdSupply String)

theorem take_asValues (count : Nat) : ids.asValues.take count = (ids.take count).map .string := by
  simp [take, asValues]

end IdSupply

theorem getD_map_string {names : List String} {i : Nat} (h : i < names.length) :
    (names.map Value.string).getD i .null = .string (names.getD i "") := by
  simp [List.getD_eq_getElem?_getD, h]

namespace Template

/-- Every edge leads between nodes of the template, which has a first one. -/
def LinksItsNodes (t : Template) : Prop :=
  0 < t.nodes.length ∧
    ∀ e ∈ t.edges, e.source < t.nodes.length ∧ e.target < t.nodes.length

theorem linksItsNodes_of_mem_all {t : Template} (h : t ∈ all) : t.LinksItsNodes := by
  simp only [all, List.mem_cons, List.not_mem_nil, or_false] at h
  obtain rfl | rfl | rfl := h <;> exact ⟨by decide, by decide⟩

variable {t : Template}

/-- The nodes of a filled template, put in one by one. -/
theorem foldl_put_sketch (entries : List (String × Node)) (known : Table Node)
    (keyed : ∀ e ∈ entries, e.2.id = e.1) :
    (entries.map fun e => e.2.sketch).foldl (fun (nodes : Keyed Sketch.Node) n => nodes.put n.id n)
        (.ofTable (known.mapEntries fun _ n => n.sketch)) =
      .ofTable ((entries.foldl (fun nodes e => nodes.insert e.1 e.2) known).mapEntries
        fun _ n => n.sketch) := by
  induction entries generalizing known with
  | nil => rfl
  | cons e rest ih =>
      obtain ⟨first, later⟩ := List.forall_mem_cons.mp keyed
      rw [List.map_cons, List.foldl_cons, List.foldl_cons, ← ih _ later, Node.sketch_id, first,
        Keyed.put_ofTable, Table.mapEntries_insert]

/-- The nodes of a template under some ids. -/
theorem nodes_sketch (nodeIds : List String) (nodes : List (NodeData × Position)) :
    (List.zipWith (fun id n => Sketch.Node.mk id n.1.sketch (.number n.2.x) (.number n.2.y))
        (nodeIds.map .string) nodes).foldl
        (fun (nodes : Keyed Sketch.Node) n => nodes.put n.id n) [] =
      .ofTable ((Table.ofList (List.zipWith (fun id n => (id, Node.mk id n.1 n.2)) nodeIds
        nodes)).mapEntries fun _ n => n.sketch) := by
  have keyed : ∀ e ∈ List.zipWith (fun id (n : NodeData × Position) => (id, Node.mk id n.1 n.2))
      nodeIds nodes, e.2.id = e.1 := by
    intro e mem
    rw [← List.map_uncurry_zip_eq_zipWith] at mem
    obtain ⟨pair, -, rfl⟩ := List.mem_map.mp mem
    rfl
  have entries := foldl_put_sketch _ .empty keyed
  rw [List.map_zipWith] at entries
  rw [List.zipWith_map_left]
  exact entries

/-- The edges of a template under some ids, between the nodes that they number. -/
theorem transitions_sketch (h : t.LinksItsNodes) {nodeIds : List String}
    (count : nodeIds.length = t.nodes.length) (edgeIds : List String) :
    List.zipWith (fun id e => Sketch.Transition.mk id
        ((nodeIds.map Value.string).getD e.source .null)
        ((nodeIds.map Value.string).getD e.target .null)
        (.ofOption .string e.label) (.ofOption .string e.branchKey) [] [])
        (edgeIds.map .string) t.edges =
      (List.zipWith (fun id e => Transition.mk id (nodeIds.getD e.source "")
        (nodeIds.getD e.target "") e.label e.branchKey [] []) edgeIds t.edges).map
        Transition.sketch := by
  rw [List.map_zipWith, List.zipWith_map_left, ← List.map_uncurry_zip_eq_zipWith,
    ← List.map_uncurry_zip_eq_zipWith]
  refine List.map_congr_left fun pair mem => ?_
  obtain ⟨source, target⟩ := h.2 pair.2 (List.of_mem_zip mem).2
  rw [← count] at source target
  simp only [Function.uncurry, getD_map_string source, getD_map_string target]
  rfl

theorem fill_asValues (h : t.LinksItsNodes) (ids : IdSupply String) (now : Option Timestamp) :
    t.fill ids.asValues now = .ok (t.instantiate ids now).sketch := by
  have keys : (ids.asValues.take t.nodes.length).mapM Value.asKey =
      .ok ((ids.take t.nodes.length).map .string) := by
    rw [IdSupply.take_asValues]
    exact mapM_map_pure _ _ _ fun _ _ => rfl
  have edgeIds : (ids.asValues.drop t.nodes.length).take t.edges.length =
      ((ids.drop t.nodes.length).take t.edges.length).map .string :=
    (ids.drop t.nodes.length).take_asValues t.edges.length
  have count := ids.length_take t.nodes.length
  have first : 0 < (ids.take t.nodes.length).length := count.symm ▸ h.1
  rw [fill, keys, ok_bind, edgeIds]
  simp only [nodes_sketch, transitions_sketch h count, getD_map_string first]
  rfl

/-- It makes no difference whether the ids that a template is filled with are taken for
texts. -/
theorem sketch_eq_fill {t : Template} (h : t ∈ all) (ids : IdSource) (now : Option Timestamp) :
    t.sketch ids now = t.fill ids.values now := by
  rw [sketch]
  split
  · rename_i texts found
    rw [IdSource.values_of_texts? found, fill_asValues (linksItsNodes_of_mem_all h) texts]
  · rfl

end Template

end TicketFlow
