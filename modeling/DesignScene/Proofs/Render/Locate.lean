/-
This file shows that what is found below a node stands behind it.
-/
import DesignScene.Proofs.Scene.Graph
import DesignScene.Render.Locate

namespace DesignScene.SceneGraph

open Outlines

variable {α : Type} {graph : SceneGraph α} {bound instanceId : Nat}

/-- A walk that starts behind a bound never comes before it. -/
theorem lt_of_mem_visit (sound : WellFormed graph.outline) {steps : Nat} {stack : List Nat}
    (start : ∀ id ∈ stack, bound < id) : ∀ id ∈ graph.visit steps stack, bound < id := by
  induction steps generalizing stack with
  | zero =>
      intro id member
      rw [visit] at member
      cases member
  | succ steps ih =>
      cases stack with
      | nil =>
          intro id member
          rw [visit] at member
          · cases member
          · simp
      | cons next stack =>
          have first := start next List.mem_cons_self
          have later : ∀ id ∈ graph.children next ++ stack, bound < id := by
            intro id member
            rcases List.mem_append.mp member with isChild | onStack
            · have after := lt_of_mem_children sound isChild
              omega
            · exact start id (List.mem_cons_of_mem _ onStack)
          intro id member
          rw [visit] at member
          rcases List.mem_cons.mp member with rfl | further
          · exact first
          · exact ih later id further

/-- Descendants have larger identifiers than the instance. -/
theorem lt_of_mem_descendants (sound : WellFormed graph.outline) {id : Nat}
    (member : id ∈ graph.descendants instanceId) : instanceId < id :=
  lt_of_mem_visit sound (fun _ isChild => lt_of_mem_children sound isChild) id member

/-- Nodes below an instance stand behind it. -/
theorem lt_of_mem_descendantNodes (sound : WellFormed graph.outline) {node : SceneNode α}
    (member : node ∈ graph.descendantNodes instanceId) : instanceId < node.id := by
  obtain ⟨id, below, found⟩ := List.mem_filterMap.mp member
  rw [id_eq_of_node? sound found]
  exact lt_of_mem_descendants sound below

/-- The nodes below an instance have the identifiers of its descendants. -/
theorem mem_descendants_of_mem_descendantNodes (sound : WellFormed graph.outline)
    {node : SceneNode α} (member : node ∈ graph.descendantNodes instanceId) :
    node.id ∈ graph.descendants instanceId := by
  obtain ⟨id, below, found⟩ := List.mem_filterMap.mp member
  rwa [id_eq_of_node? sound found]

/-- What a search below an instance finds is one of its nodes. -/
theorem exists_mem_of_findBelow {holds : SceneNode α → Bool} {id : Nat}
    (found : graph.findBelow instanceId holds = some id) :
    ∃ node ∈ graph.descendantNodes instanceId, node.id = id := by
  obtain ⟨node, isNode, same⟩ := Option.map_eq_some_iff.mp found
  exact ⟨node, List.mem_of_find?_eq_some isNode, same⟩

/-- Whichever way a node is found, it is one of those below the instance. -/
theorem exists_mem_of_locate {nodeId name : String} {id : Nat}
    (found : graph.locate instanceId nodeId name = some id) :
    ∃ node ∈ graph.descendantNodes instanceId, node.id = id := by
  simp only [locate, Option.or_eq_some_iff] at found
  rcases found with ((byId | ⟨-, bySuffix⟩) | ⟨-, byPart⟩) | ⟨-, byName⟩
  · exact exists_mem_of_findBelow byId
  · exact exists_mem_of_findBelow bySuffix
  · exact exists_mem_of_findBelow byPart
  · exact exists_mem_of_findBelow byName

/-- A located node stands behind its instance. -/
theorem lt_of_locate (sound : WellFormed graph.outline) {nodeId name : String} {id : Nat}
    (found : graph.locate instanceId nodeId name = some id) : instanceId < id := by
  obtain ⟨node, member, rfl⟩ := exists_mem_of_locate found
  exact lt_of_mem_descendantNodes sound member

/-- The texts of a slot are text nodes below the instance. -/
theorem exists_mem_of_mem_slotTexts {slot : SlotRef} {id : Nat}
    (member : id ∈ graph.slotTexts instanceId slot) :
    ∃ node ∈ graph.descendantNodes instanceId, node.isText = true ∧ node.id = id := by
  obtain ⟨node, listed, same⟩ := List.mem_map.mp member
  obtain ⟨below, chosen⟩ := List.mem_filter.mp listed
  exact ⟨node, below, (Bool.and_eq_true_iff.mp chosen).1, same⟩

/-- The texts of a slot stand behind the instance. -/
theorem lt_of_mem_slotTexts (sound : WellFormed graph.outline) {slot : SlotRef} {id : Nat}
    (member : id ∈ graph.slotTexts instanceId slot) : instanceId < id := by
  obtain ⟨node, below, -, rfl⟩ := exists_mem_of_mem_slotTexts member
  exact lt_of_mem_descendantNodes sound below

section Nested

variable {nested : List (SceneNode α)}

/-- What a search among nested instances finds is one of them. -/
theorem exists_mem_of_findNested {holds : SceneNode α → Bool} {id : Nat}
    (found : findNested nested holds = some id) : ∃ node ∈ nested, node.id = id := by
  obtain ⟨node, isNode, same⟩ := Option.map_eq_some_iff.mp found
  exact ⟨node, List.mem_of_find?_eq_some isNode, same⟩

/-- Whatever name an icon has, one of the nested instances is found for it. -/
theorem exists_mem_of_iconByName {key : String} {id : Nat}
    (found : iconByName key nested = some id) : ∃ node ∈ nested, node.id = id := by
  simp only [iconByName] at found
  split at found
  · rcases Option.or_eq_some_iff.mp found with byWord | ⟨-, first⟩
    · exact exists_mem_of_findNested byWord
    · obtain ⟨node, isFirst, same⟩ := Option.map_eq_some_iff.mp first
      exact ⟨node, List.mem_of_mem_head? isFirst, same⟩
  · split at found
    · rcases Option.or_eq_some_iff.mp found with byWord | ⟨-, last⟩
      · exact exists_mem_of_findNested byWord
      · obtain ⟨node, isLast, same⟩ := Option.map_eq_some_iff.mp last
        exact ⟨node, List.mem_of_mem_getLast? isLast, same⟩
    · rcases Option.or_eq_some_iff.mp found with near | ⟨-, anyIcon⟩
      · exact exists_mem_of_findNested near
      · exact exists_mem_of_findNested anyIcon

end Nested

/-- Whatever an icon key means, it is one of the instances below. -/
theorem exists_mem_of_iconTarget {key : String} {id : Nat}
    (found : graph.iconTarget instanceId key = some id) :
    ∃ node ∈ graph.descendantNodes instanceId, node.isInstance = true ∧ node.id = id := by
  simp only [iconTarget] at found
  split at found
  · cases found
  · have isNested : ∃ node ∈ (graph.descendantNodes instanceId).filter (·.isInstance),
        node.id = id := by
      rcases Option.or_eq_some_iff.mp found with byId | ⟨-, byName⟩
      · exact exists_mem_of_findNested byId
      · exact exists_mem_of_iconByName byName
    obtain ⟨node, member, same⟩ := isNested
    obtain ⟨below, isInstance⟩ := List.mem_filter.mp member
    exact ⟨node, below, isInstance, same⟩

/-- The target of an icon swap stands behind its instance. -/
theorem lt_of_iconTarget (sound : WellFormed graph.outline) {key : String} {id : Nat}
    (found : graph.iconTarget instanceId key = some id) : instanceId < id := by
  obtain ⟨node, below, -, rfl⟩ := exists_mem_of_iconTarget found
  exact lt_of_mem_descendantNodes sound below

end DesignScene.SceneGraph
