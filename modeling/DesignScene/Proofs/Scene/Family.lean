/-
This file says what arranging a frame leaves of the frame and of each of its children.
-/
import DesignScene.Proofs.Scene.Arrange
import Mathlib.Data.List.Forall2

namespace DesignScene

open Outlines

namespace SceneGraph

variable {α : Type} {graph : SceneGraph α}

/-- A node that is put back is found. -/
theorem node?_put_self {node old : SceneNode α} (found : graph.node? node.id = some old) :
    (graph.put node).node? node.id = some node := node?_update_self found _

/-- Putting one node back changes no other one. -/
theorem node?_put_of_ne {node : SceneNode α} {id : Nat} (different : node.id ≠ id) :
    (graph.put node).node? id = graph.node? id := node?_update_of_ne different _

/-- Nodes that are not put back stay. -/
theorem node?_putAll_of_not_mem {nodes : List (SceneNode α)} {id : Nat}
    (elsewhere : id ∉ nodes.map (·.id)) : (graph.putAll nodes).node? id = graph.node? id := by
  rw [putAll]
  induction nodes generalizing graph with
  | nil => rfl
  | cons node more ih =>
      rw [List.map_cons, List.mem_cons, not_or] at elsewhere
      rw [List.foldl_cons, ih elsewhere.2, node?_put_of_ne (Ne.symm elsewhere.1)]

/-- Nodes with names of their own are all found where they are written to. -/
theorem node?_putAll_of_mem {nodes : List (SceneNode α)} (distinct : (nodes.map (·.id)).Nodup)
    {node old : SceneNode α} (member : node ∈ nodes) (found : graph.node? node.id = some old) :
    (graph.putAll nodes).node? node.id = some node := by
  induction nodes generalizing graph old with
  | nil => cases member
  | cons first more ih =>
      rw [List.map_cons, List.nodup_cons] at distinct
      rw [putAll, List.foldl_cons, ← putAll]
      rcases List.mem_cons.mp member with rfl | later
      · rw [node?_putAll_of_not_mem distinct.1, node?_put_self found]
      · have different : first.id ≠ node.id := by
          intro same
          exact distinct.1 (same ▸ List.mem_map_of_mem later)
        exact ih distinct.2 later ((node?_put_of_ne different).trans found)

theorem children_of_node? {id : Nat} {node : SceneNode α} (found : graph.node? id = some node) :
    graph.children id = node.children := by rw [children, found, Option.elim_some]

/-- The children of a node are all there. -/
theorem exists_node_of_mem_children (sound : WellFormed graph.outline) {id child : Nat}
    (member : child ∈ graph.children id) : ∃ node, graph.node? child = some node := by
  rw [children] at member
  cases found : graph.node? id with
  | none => simp [found] at member
  | some node =>
      rw [found] at member
      obtain ⟨inside, atChild, -⟩ :=
        (sound.mem_children_iff (outline_of_node? found)).mp member
      rw [getElem?_outline] at atChild
      exact (Option.map_eq_some_iff.mp atChild).imp fun _ => And.left

/-- The child nodes have the identifiers that their parent lists. -/
theorem map_id_childNodes (sound : WellFormed graph.outline) (id : Nat) :
    (graph.childNodes id).map (·.id) = graph.children id := by
  rw [childNodes, List.map_filterMap]
  refine (List.filterMap_congr fun child member => ?_).trans List.filterMap_some
  obtain ⟨node, found⟩ := exists_node_of_mem_children sound member
  rw [found, Option.map_some, id_eq_of_node? sound found]

/-- A child node is found under its own identifier. -/
theorem node?_of_mem_childNodes (sound : WellFormed graph.outline) {id : Nat}
    {child : SceneNode α} (member : child ∈ graph.childNodes id) :
    graph.node? child.id = some child := by
  obtain ⟨place, -, found⟩ := List.mem_filterMap.mp member
  rwa [id_eq_of_node? sound found]

/-- No child is listed twice. -/
theorem nodup_children (sound : WellFormed graph.outline) (id : Nat) :
    (graph.children id).Nodup := by
  rw [children]
  cases found : graph.node? id with
  | none => exact List.nodup_nil
  | some node =>
      exact (sound.children_ordered (outline_of_node? found)).imp fun {_ _} before =>
        Nat.ne_of_lt before

/-- A node that is there is found by its identifier among nodes that are there. -/
theorem filterMap_node?_eq {nodes : List (SceneNode α)}
    (found : ∀ node ∈ nodes, graph.node? node.id = some node) :
    (nodes.map (·.id)).filterMap graph.node? = nodes := by
  rw [List.filterMap_map]
  exact (List.filterMap_congr found).trans List.filterMap_some

section Shown

/-- There is such a node, and it is visible. -/
def shows (graph : SceneGraph α) (id : Nat) : Bool := (graph.node? id).any (·.visible)

/-- The visible children are the listed ones that are shown. -/
theorem visibleChildren_eq (graph : SceneGraph α) (id : Nat) :
    graph.visibleChildren id = ((graph.children id).filter graph.shows).filterMap graph.node? := by
  rw [visibleChildren, childNodes, List.filter_filterMap, List.filterMap_filter]
  refine List.filterMap_congr fun child _ => ?_
  rw [shows]
  cases graph.node? child with
  | none => rfl
  | some node => rfl

theorem map_id_visibleChildren (sound : WellFormed graph.outline) (id : Nat) :
    (graph.visibleChildren id).map (·.id) = (graph.children id).filter graph.shows := by
  rw [visibleChildren_eq, List.map_filterMap]
  refine (List.filterMap_congr fun child member => ?_).trans List.filterMap_some
  obtain ⟨node, found⟩ := exists_node_of_mem_children sound (List.mem_of_mem_filter member)
  rw [found, Option.map_some, id_eq_of_node? sound found]

theorem node?_of_mem_visibleChildren (sound : WellFormed graph.outline) {id : Nat}
    {child : SceneNode α} (member : child ∈ graph.visibleChildren id) :
    graph.node? child.id = some child :=
  node?_of_mem_childNodes sound (List.mem_of_mem_filter member)

/-- A visible child stands behind its parent. -/
theorem lt_of_mem_visibleChildren (sound : WellFormed graph.outline) {id : Nat}
    {child : SceneNode α} (member : child ∈ graph.visibleChildren id) : id < child.id := by
  have listed := List.mem_map_of_mem (f := (·.id)) member
  rw [map_id_visibleChildren sound] at listed
  exact lt_of_mem_children sound (List.mem_of_mem_filter listed)

theorem nodup_visibleChildren (sound : WellFormed graph.outline) (id : Nat) :
    ((graph.visibleChildren id).map (·.id)).Nodup := by
  rw [map_id_visibleChildren sound]
  exact (nodup_children sound id).filter _

end Shown

/-- A node and its shown children come to be these, and no other node changes. -/
structure Rewrites (graph later : SceneGraph α) (id : Nat) (frame : SceneNode α)
    (children : List (SceneNode α)) : Prop where
  found : later.node? id = some frame
  foundAll : ∀ child ∈ children, later.node? child.id = some child
  elsewhere : ∀ other, other ≠ id → other ∉ children.map (·.id) →
    later.node? other = graph.node? other

/-- Writing nodes over a node and its shown children. -/
theorem rewrites_putAll {id : Nat} {frame first : SceneNode α} {others : List (SceneNode α)}
    (sound : WellFormed graph.outline) (found : graph.node? id = some frame)
    (named : first.id = frame.id)
    (namedAll : others.map (·.id) = (graph.visibleChildren id).map (·.id)) :
    graph.Rewrites ((graph.put first).putAll others) id first others := by
  have ownId : first.id = id := named.trans (id_eq_of_node? sound found)
  have inFront : id ∉ others.map (·.id) := by
    rw [namedAll]
    intro listed
    obtain ⟨child, member, same⟩ := List.mem_map.mp listed
    exact absurd (lt_of_mem_visibleChildren sound member) (by omega)
  constructor
  · rw [node?_putAll_of_not_mem inFront, ← ownId]
    exact node?_put_self (by rw [ownId]; exact found)
  · intro child member
    have listed := List.mem_map_of_mem (f := (·.id)) member
    have different : first.id ≠ child.id := fun same => inFront (ownId ▸ same ▸ listed)
    obtain ⟨old, isOld, sameId⟩ := List.mem_map.mp (namedAll ▸ listed)
    apply node?_putAll_of_mem (namedAll ▸ nodup_visibleChildren sound id) member
    rw [node?_put_of_ne different, ← sameId]
    exact node?_of_mem_visibleChildren sound isOld
  · intro other notFrame notChild
    rw [node?_putAll_of_not_mem notChild, node?_put_of_ne]
    rw [ownId]
    exact Ne.symm notFrame

/-- A node and its children, all of which are shown. -/
structure Family (graph : SceneGraph α) (id : Nat) (frame : SceneNode α)
    (children : List (SceneNode α)) : Prop where
  found : graph.node? id = some frame
  childNodes_eq : graph.childNodes id = children
  visible : ∀ child ∈ children, child.visible = true

namespace Family

variable {later : SceneGraph α} {id : Nat} {frame : SceneNode α} {children : List (SceneNode α)}

theorem id_eq (sound : WellFormed graph.outline) (family : graph.Family id frame children) :
    frame.id = id := id_eq_of_node? sound family.found

/-- A family has the children that its frame lists. -/
theorem map_id_eq (sound : WellFormed graph.outline) (family : graph.Family id frame children) :
    children.map (·.id) = frame.children := by
  rw [← family.childNodes_eq, map_id_childNodes sound, children_of_node? family.found]

/-- Every child of a family is found under its own identifier. -/
theorem node?_child (sound : WellFormed graph.outline) (family : graph.Family id frame children)
    {child : SceneNode α} (member : child ∈ children) : graph.node? child.id = some child := by
  rw [← family.childNodes_eq] at member
  exact node?_of_mem_childNodes sound member

/-- Every child of a family stands behind the frame. -/
theorem lt_child (sound : WellFormed graph.outline) (family : graph.Family id frame children)
    {child : SceneNode α} (member : child ∈ children) : id < child.id := by
  have listed := List.mem_map_of_mem (f := (·.id)) member
  rw [family.map_id_eq sound, ← children_of_node? family.found] at listed
  exact lt_of_mem_children sound listed

/-- The children of a family are distinct. -/
theorem nodup_ids (sound : WellFormed graph.outline) (family : graph.Family id frame children) :
    (children.map (·.id)).Nodup := by
  rw [family.map_id_eq sound, ← children_of_node? family.found]
  exact nodup_children sound id

/-- The visible children of the frame are those of the family. -/
theorem visibleChildren_eq (family : graph.Family id frame children) :
    graph.visibleChildren id = children := by
  rw [visibleChildren, family.childNodes_eq, List.filter_eq_self]
  exact family.visible

/-- A family is known by its nodes. -/
theorem of_nodes {first : SceneNode α} {others : List (SceneNode α)}
    (found : later.node? id = some first) (named : others.map (·.id) = first.children)
    (foundAll : ∀ child ∈ others, later.node? child.id = some child)
    (visible : ∀ child ∈ others, child.visible = true) : later.Family id first others where
  found := found
  childNodes_eq := by
    rw [childNodes, children_of_node? found, ← named]
    exact filterMap_node?_eq foundAll
  visible := visible

end Family

/-- The family comes to be this one, and no other node changes. -/
structure Turns (graph later : SceneGraph α) (id : Nat) (frame : SceneNode α)
    (children : List (SceneNode α)) : Prop where
  family : later.Family id frame children
  elsewhere : ∀ other, other ≠ id → other ∉ children.map (·.id) →
    later.node? other = graph.node? other

/-- A family is written over another one with the same names. -/
theorem Rewrites.turns {later : SceneGraph α} {id : Nat} {frame first : SceneNode α}
    {children others : List (SceneNode α)} (rewritten : graph.Rewrites later id first others)
    (sound : WellFormed graph.outline) (family : graph.Family id frame children)
    (sameChildren : first.children = frame.children)
    (namedAll : others.map (·.id) = children.map (·.id))
    (visible : ∀ child ∈ others, child.visible = true) : graph.Turns later id first others where
  family := by
    refine .of_nodes rewritten.found ?_ rewritten.foundAll visible
    rw [namedAll, sameChildren, family.map_id_eq sound]
  elsewhere := rewritten.elsewhere

end SceneGraph

end DesignScene
