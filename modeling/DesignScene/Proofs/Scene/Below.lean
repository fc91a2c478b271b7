/-
This file says which nodes of a scene stand below a node, by their parents.
-/
import DesignScene.Proofs.Scene.Walk

namespace DesignScene.SceneGraph

open Outlines

variable {α : Type} {graph later : SceneGraph α} {above id : Nat}

/-- The parents of the node lead up to the other one. -/
inductive IsBelow (graph : SceneGraph α) (above : Nat) : Nat → Prop where
  | child {id : Nat} {node : SceneNode α} (found : graph.node? id = some node)
      (isParent : node.parent = some above) : IsBelow graph above id
  | deeper {id between : Nat} {node : SceneNode α} (found : graph.node? id = some node)
      (isParent : node.parent = some between) (below : IsBelow graph above between) :
      IsBelow graph above id

/-- No node stands below itself, and all nodes below it stand behind it. -/
theorem IsBelow.lt (below : graph.IsBelow above id) (sound : WellFormed graph.outline) :
    above < id := by
  induction below with
  | child found isParent => exact sound.parent_lt (outline_of_node? found) isParent
  | deeper found isParent _ ih =>
      exact Nat.lt_trans ih (sound.parent_lt (outline_of_node? found) isParent)

/-- What stands below what depends on the outline only. -/
theorem IsBelow.congr (same : later.outline = graph.outline) (below : later.IsBelow above id) :
    graph.IsBelow above id := by
  have original {place : Nat} {node : SceneNode α} (found : later.node? place = some node) :
      ∃ other, graph.node? place = some other ∧ other.parent = node.parent := by
    have atPlace := outline_of_node? found
    rw [same, getElem?_outline] at atPlace
    obtain ⟨other, isThere, outline⟩ := Option.map_eq_some_iff.mp atPlace
    exact ⟨other, isThere, congrArg NodeOutline.parent outline⟩
  induction below with
  | child found isParent =>
      obtain ⟨other, isThere, sameParent⟩ := original found
      exact .child isThere (sameParent.trans isParent)
  | deeper found isParent _ ih =>
      obtain ⟨other, isThere, sameParent⟩ := original found
      exact .deeper isThere (sameParent.trans isParent) ih

/-- A child that a node lists names it as its parent. -/
theorem exists_parent_of_mem_children (sound : WellFormed graph.outline)
    (listed : id ∈ graph.children above) :
    ∃ node, graph.node? id = some node ∧ node.parent = some above := by
  rw [children_eq_of_outline] at listed
  cases found : graph.outline[above]? with
  | none => simp [found] at listed
  | some outline =>
      rw [found] at listed
      obtain ⟨inside, atPlace, isParent⟩ := (sound.mem_children_iff found).mp listed
      rw [getElem?_outline] at atPlace
      obtain ⟨node, isNode, rfl⟩ := Option.map_eq_some_iff.mp atPlace
      exact ⟨node, isNode, isParent⟩

/-- A walk that starts below a node stays below it. -/
theorem isBelow_of_mem_visit (sound : WellFormed graph.outline) {steps : Nat} {stack : List Nat}
    (start : ∀ place ∈ stack, graph.IsBelow above place) :
    ∀ place ∈ graph.visit steps stack, graph.IsBelow above place := by
  induction steps generalizing stack with
  | zero =>
      intro place member
      rw [visit] at member
      cases member
  | succ steps ih =>
      cases stack with
      | nil => simp
      | cons next stack =>
          have first := start next List.mem_cons_self
          have further : ∀ place ∈ graph.children next ++ stack, graph.IsBelow above place := by
            intro place member
            rcases List.mem_append.mp member with isChild | onStack
            · obtain ⟨node, found, isParent⟩ := exists_parent_of_mem_children sound isChild
              exact .deeper found isParent first
            · exact start place (List.mem_cons_of_mem _ onStack)
          rw [visit]
          exact List.forall_mem_cons.mpr ⟨first, ih further⟩

/-- What the walk below a node comes to stands below it. -/
theorem isBelow_of_mem_descendants (sound : WellFormed graph.outline)
    (member : id ∈ graph.descendants above) : graph.IsBelow above id := by
  apply isBelow_of_mem_visit sound _ id member
  intro place isChild
  obtain ⟨node, found, isParent⟩ := exists_parent_of_mem_children sound isChild
  exact .child found isParent

end DesignScene.SceneGraph
