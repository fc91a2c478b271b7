/-
This file shows that arranging a frame of a forest touches nothing but the sizes of the frame and the places
and sizes of its shown children, and that doing so once more changes nothing at all.
-/
import DesignScene.Proofs.Render.Forest
import DesignScene.Proofs.Scene.Fitted

namespace DesignScene

open Outlines

namespace SceneGraph

section Rewriting

variable {α : Type} {graph later : SceneGraph α} {id : Nat} {frame : SceneNode α}
  {children others : List (SceneNode α)}

/-- Scenes that were rewritten in the same way from one scene are the same. -/
theorem Rewrites.unique {first second : SceneGraph α} (one : graph.Rewrites first id frame children)
    (other : graph.Rewrites second id frame children) : first = second := by
  apply ext_node?
  intro place
  by_cases isFrame : place = id
  · rw [isFrame, one.found, other.found]
  · by_cases isChild : place ∈ children.map (·.id)
    · obtain ⟨child, member, rfl⟩ := List.mem_map.mp isChild
      rw [one.foundAll child member, other.foundAll child member]
    · rw [one.elsewhere place isFrame isChild, other.elsewhere place isFrame isChild]

/-- Two rewritings of one family are one. -/
theorem Rewrites.trans {next : SceneGraph α} {first : SceneNode α}
    (rewritten : graph.Rewrites next id frame children)
    (again : next.Rewrites later id first others)
    (named : others.map (·.id) = children.map (·.id)) : graph.Rewrites later id first others where
  found := again.found
  foundAll := again.foundAll
  elsewhere other notFrame notChild := by
    rw [again.elsewhere other notFrame notChild]
    exact rewritten.elsewhere other notFrame (named ▸ notChild)

/-- If no child is shown or hidden, the children that are shown are those that were written. -/
theorem Rewrites.visibleChildren_eq (rewritten : graph.Rewrites later id frame children)
    (sound : WellFormed graph.outline) (sameChildren : frame.children = graph.children id)
    (named : children.map (·.id) = (graph.visibleChildren id).map (·.id))
    (visible : ∀ child ∈ children, child.visible = true) : later.visibleChildren id = children := by
  have sameShown : ∀ place ∈ graph.children id, later.shows place = graph.shows place := by
    intro place listed
    have behind := lt_of_mem_children sound listed
    by_cases isChild : place ∈ children.map (·.id)
    · have wasShown : graph.shows place = true := by
        rw [named, map_id_visibleChildren sound] at isChild
        exact (List.mem_filter.mp isChild).2
      obtain ⟨child, member, rfl⟩ := List.mem_map.mp isChild
      rw [wasShown, shows, rewritten.foundAll child member, Option.any_some, visible child member]
    · rw [shows, rewritten.elsewhere place (Nat.ne_of_gt behind) isChild, shows]
  rw [SceneGraph.visibleChildren_eq, children_of_node? rewritten.found, sameChildren,
    List.filter_congr sameShown, ← map_id_visibleChildren sound, ← named,
    filterMap_node?_eq rewritten.foundAll]

end Rewriting

section Arranging

variable {graph : SceneGraph Rat}

/-- Only the sizes of the node and the places and sizes of its shown children are different. -/
structure DiffersAround (graph later : SceneGraph Rat) (id : Nat) : Prop where
  size_eq : later.size = graph.size
  frame : ∀ frame, graph.node? id = some frame → ∃ width height,
    later.node? id = some { frame with width := width, height := height }
  children : ∀ child ∈ graph.visibleChildren id, ∃ x y width height,
    later.node? child.id =
      some { child with x := x, y := y, width := width, height := height }
  elsewhere : ∀ other, other ≠ id → (∀ child ∈ graph.visibleChildren id, child.id ≠ other) →
    later.node? other = graph.node? other

/-- A graph does not differ from itself. -/
theorem DiffersAround.refl (sound : WellFormed graph.outline) (id : Nat) :
    graph.DiffersAround graph id where
  size_eq := rfl
  frame frame found := ⟨frame.width, frame.height, found⟩
  children child member := ⟨child.x, child.y, child.width, child.height,
    node?_of_mem_visibleChildren sound member⟩
  elsewhere _ _ _ := rfl

/-- A node that is no frame arranges nothing. -/
theorem arrange_of_no_frame {id : Nat} (noFrame : (graph.node? id).bind SceneNode.frame? = none) :
    graph.arrange id = graph := by
  rw [arrange]
  cases found : graph.node? id with
  | none => rfl
  | some node =>
      rw [found, Option.bind_some] at noFrame
      simp only [noFrame]

variable {id : Nat} {frame : SceneNode Rat} {props : FrameProps Rat}

/-- Arranging a frame changes it and its children only. -/
theorem differsAround_arrange_of_frame (sound : WellFormed graph.outline)
    (found : graph.node? id = some frame) (isFrame : frame.frame? = some props) :
    graph.DiffersAround (graph.arrange id) id := by
  have rewritten := rewrites_arrange sound found isFrame
  constructor
  · exact (moves_arrange sound id).size_eq
  · intro other isOther
    cases found.symm.trans isOther
    exact ⟨_, _, rewritten.found⟩
  · intro child member
    obtain ⟨other, isMember, x, y, rfl⟩ :=
      Arrange.exists_of_forall₂_left Arrange.forall₂_arranged member
    exact ⟨x, y, _, _, rewritten.foundAll _ isMember⟩
  · intro other notFrame notChild
    refine rewritten.elsewhere other notFrame ?_
    rw [Arrange.map_id_arranged, List.mem_map]
    rintro ⟨child, member, same⟩
    exact notChild child member same

/-- The shown children of a frame that was arranged are what arranging makes of them. -/
theorem visibleChildren_arrange (sound : WellFormed graph.outline)
    (found : graph.node? id = some frame) (isFrame : frame.frame? = some props) :
    (graph.arrange id).visibleChildren id =
      (Arrange.arranged props frame (graph.visibleChildren id)).2 :=
  (rewrites_arrange sound found isFrame).visibleChildren_eq sound (children_of_node? found).symm
    Arrange.map_id_arranged
    (Arrange.visible_arranged fun _ member => (List.mem_filter.mp member).2)

/-- The frame and the children that were arranged are arranged already. -/
theorem arrange_arrange_of_frame (sound : WellFormed graph.outline)
    (found : graph.node? id = some frame) (isFrame : frame.frame? = some props) :
    (graph.arrange id).arrange id = graph.arrange id := by
  have laterSound := (moves_arrange sound id).wellFormed sound
  have rewritten := rewrites_arrange sound found isFrame
  have framed : (Arrange.arranged props frame (graph.visibleChildren id)).1.frame? = some props :=
    isFrame
  have again := rewrites_arrange laterSound rewritten.found framed
  rw [visibleChildren_arrange sound found isFrame, Arrange.arranged_arranged] at again
  exact (rewritten.trans again rfl).unique rewritten

/-- Arranging a frame changes only its size and its shown children, and once more it changes nothing. -/
theorem arrange_changes_around_once (forest : graph.IsForest) (id : Nat) :
    graph.DiffersAround (graph.arrange id) id ∧ (graph.arrange id).arrange id = graph.arrange id := by
  have sound := isForest_iff_wellFormed.mp forest
  cases isFrame : (graph.node? id).bind SceneNode.frame? with
  | none =>
      rw [arrange_of_no_frame isFrame, arrange_of_no_frame isFrame]
      exact ⟨.refl sound id, rfl⟩
  | some props =>
      obtain ⟨frame, found, isFrame⟩ := Option.bind_eq_some_iff.mp isFrame
      exact ⟨differsAround_arrange_of_frame sound found isFrame,
        arrange_arrange_of_frame sound found isFrame⟩

/-- A node and others below it are a forest. -/
theorem isForest_of_family {first : Addition Rat} {others : List (Addition Rat)}
    (isRoot : first.parent = none) (below : ∀ other ∈ others, other.parent = some 0) :
    (addAll (first :: others)).IsForest := by
  refine isForest_iff_wellFormed.mpr (wellFormed_addAll _ fun {index place addition} found isParent => ?_)
  cases index with
  | zero =>
      cases found
      rw [isRoot] at isParent
      cases isParent
  | succ index =>
      rw [List.getElem?_cons_succ] at found
      rw [below addition (List.mem_of_getElem? found)] at isParent
      cases isParent
      exact Nat.succ_pos index

/-- A row that wraps, with three children. -/
def rowOfThree : List (Addition Rat) :=
  [⟨none, none, "Row", .frame { FrameProps.plain with
      layoutMode := .horizontal
      itemSpacing := .fixed 10
      layoutWrap := true
      counterSizing := .auto }, 100, 0⟩,
    ⟨some 0, none, "First", .vector, 60, 20⟩,
    ⟨some 0, none, "Second", .vector, 30, 20⟩,
    ⟨some 0, none, "Third", .vector, 60, 20⟩]

/-- The second child of the row is hidden. -/
def wrappedRow : SceneGraph Rat :=
  (addAll rowOfThree).update 2 fun node => { node with visible := false }

theorem isForest_rowOfThree : (addAll rowOfThree).IsForest :=
  isForest_of_family rfl (by simp)

theorem isForest_wrappedRow : wrappedRow.IsForest := by
  have kept : Keeps 0 (addAll rowOfThree) wrappedRow := keeps_update (Nat.zero_le 2) fun _ _ => rfl
  exact isForest_iff_wellFormed.mpr (kept.wellFormed (isForest_iff_wellFormed.mp isForest_rowOfThree))

/-- The third child comes to stand on a line of its own, and the row grows around both lines. -/
theorem wrapped_row_arranged_once :
    wrappedRow.IsForest ∧ wrappedRow.DiffersAround (wrappedRow.arrange 0) 0 ∧
      (wrappedRow.arrange 0).arrange 0 = wrappedRow.arrange 0 ∧
      ((wrappedRow.arrange 0).node? 3).map (fun node => (node.x, node.y)) = some (0, 30) ∧
      ((wrappedRow.arrange 0).node? 0).map (·.height) = some 50 := by
  obtain ⟨differs, again⟩ := arrange_changes_around_once isForest_wrappedRow 0
  exact ⟨isForest_wrappedRow, differs, again, by decide +kernel, by decide +kernel⟩

end Arranging

end SceneGraph

end DesignScene
