/-
This file says where auto layout places the children of a frame, and that it keeps them apart.
-/
import DesignScene.Proofs.Scene.Bounds
import DesignScene.Proofs.Scene.Boxes
import DesignScene.Proofs.Scene.Locality
import Mathlib.Algebra.Order.BigOperators.Group.List
import Mathlib.Tactic.Ring

namespace DesignScene

open Scalar

namespace Arrange

section Places

variable {α : Type} [Scalar α] (props : FrameProps α) (frame : SceneNode α) (single : Bool)

/-- The children of one line at their places. -/
def placeLine (cross : α) (line : Line α) : List (SceneNode α) :=
  let start := lineStart props (atLeastZero (innerMain props frame - line.main)) line
  placeChildren (isVertical props) (crossAlign props) cross
    (if single then innerCross props frame else line.cross) start.2 (mainStart props + start.1)
    line.children

/-- The children at their places, line by line. -/
def placedLines : α → List (Line α) → List (List (SceneNode α))
  | _, [] => []
  | cross, line :: more =>
      placeLine props frame single cross line ::
        placedLines (cross + (line.cross + props.itemSpacing.gap)) more

/-- The lines together are all children that are placed. -/
theorem flatten_placedLines (cross : α) (lines : List (Line α)) :
    (placedLines props frame single cross lines).flatten =
      placeLines props frame single cross lines := by
  induction lines generalizing cross with
  | nil => rfl
  | cons line more ih =>
      rw [placedLines, List.flatten_cons, ih]
      rfl

/-- Each line is placed at some height. -/
theorem forall₂_placedLines (cross : α) (lines : List (Line α)) :
    List.Forall₂ (fun line placed => ∃ cross, placed = placeLine props frame single cross line)
      lines (placedLines props frame single cross lines) := by
  induction lines generalizing cross with
  | nil => exact .nil
  | cons line more ih => exact .cons ⟨cross, rfl⟩ (ih _)

theorem length_placeLine (cross : α) (line : Line α) :
    (placeLine props frame single cross line).length = line.children.length :=
  (forall₂_placeChildren _ _ _ _ _ _ _).length_eq.symm

/-- Placing keeps the lengths of the lines. -/
theorem map_length_placedLines (cross : α) (lines : List (Line α)) :
    (placedLines props frame single cross lines).map List.length =
      lines.map (·.children.length) := by
  rw [← List.forall₂_eq_eq_eq, List.forall₂_map_left_iff, List.forall₂_map_right_iff]
  refine (forall₂_placedLines props frame single cross lines).flip.imp fun placed line => ?_
  rintro ⟨cross, rfl⟩
  exact length_placeLine props frame single cross line

/-- What does not depend on places stays when children are placed. -/
theorem map_placed {β : Type} {read : SceneNode α → β}
    (kept : ∀ (child : SceneNode α) (x y : α), read { child with x := x, y := y } = read child)
    (sized : List (SceneNode α)) : (placed props frame sized).map read = sized.map read := by
  rw [← List.forall₂_eq_eq_eq, List.forall₂_map_left_iff, List.forall₂_map_right_iff]
  refine (forall₂_placed sized).flip.imp fun other child => ?_
  rintro ⟨x, y, rfl⟩
  exact kept child x y

/-- Placing changes nothing but places. -/
theorem unplaced_placed (sized : List (SceneNode α)) :
    (placed props frame sized).map SceneNode.unplaced = sized.map SceneNode.unplaced :=
  map_placed props frame (fun _ _ _ => rfl) sized

/-- The children at their places break into the lines in which they were placed. -/
theorem map_children_linesOf_placed (sized : List (SceneNode α)) :
    (linesOf props frame (placed props frame sized)).map (·.children) =
      placedLines props frame ((linesOf props frame sized).length == 1) (crossStart props)
        (linesOf props frame sized) := by
  have sameLines : (linesOf props frame (placed props frame sized)).map Line.unplaced =
      (linesOf props frame sized).map Line.unplaced := by
    rw [← linesOf_unplaced, unplaced_placed, linesOf_unplaced]
  rw [List.eq_iff_flatten_eq]
  constructor
  · rw [flatten_placedLines, ← List.flatMap_def, linesOf, breakLines, flatMap_breakLinesAfter]
    rfl
  · have sameLengths := congrArg (List.map (·.children.length)) sameLines
    rw [List.map_map, List.map_map] at sameLengths
    simp only [Function.comp_def, Line.unplaced, List.length_map] at sameLengths
    rw [map_length_placedLines, List.map_map]
    exact sameLengths

end Places

section Across

variable {align : String} {extent size : Rat}

/-- No alignment moves a child back. -/
theorem crossOffset_nonneg (align : String) (extent size : Rat) :
    0 ≤ crossOffset align extent size := by
  unfold crossOffset
  split
  · exact atLeastZero_nonneg _
  · exact atLeastZero_nonneg _
  · exact le_refl 0

/-- A child that fits across its line ends within it. -/
theorem crossOffset_add_le (align : String) (fits : size ≤ extent) :
    crossOffset align extent size + size ≤ extent := by
  have half : (extent - size) / 2 ≤ extent - size := by linarith
  rw [← le_sub_iff_add_le]
  unfold crossOffset
  split
  · rw [atLeastZero_eq_max, ofNat_eq_cast, Nat.cast_ofNat]
    exact max_le (sub_nonneg.mpr fits) half
  · rw [atLeastZero_eq_max]
    exact max_le (sub_nonneg.mpr fits) le_rfl
  · exact sub_nonneg.mpr fits

end Across

section Extents

theorem gapCount_eq_cast {β : Type} (members : List β) :
    (gapCount members : Rat) = (members.length - 1 : Nat) := ofNat_eq_cast _

/-- The space that the children take behind each other, with the gaps between them. -/
def mainExtent (vertical : Bool) (gap : Rat) (children : List (SceneNode Rat)) : Rat :=
  (children.map (SceneNode.mainSize vertical)).sum + gap * (children.length - 1 : Nat)

variable {vertical : Bool} {gap : Rat} {children : List (SceneNode Rat)}

/-- A line measures the children and the gaps between them. -/
theorem main_measureLine :
    (measureLine vertical gap children).main = mainExtent vertical gap children := by
  rw [mainExtent, ← sum_eq_sum, ← gapCount_eq_cast]
  rfl

/-- Children without negative sizes take no negative extent. -/
theorem mainExtent_nonneg (wide : 0 ≤ gap) (sized : ∀ child ∈ children, 0 ≤ child.mainSize vertical) :
    0 ≤ mainExtent vertical gap children := by
  refine add_nonneg (List.sum_nonneg ?_) (mul_nonneg wide (Nat.cast_nonneg _))
  exact List.forall_mem_map.mpr sized

theorem mainExtent_singleton (child : SceneNode Rat) :
    mainExtent vertical gap [child] = child.mainSize vertical := by simp [mainExtent]

/-- A further child adds its size and one gap. -/
theorem mainExtent_cons_cons (child next : SceneNode Rat) (more : List (SceneNode Rat)) :
    mainExtent vertical gap (child :: next :: more) =
      child.mainSize vertical + gap + mainExtent vertical gap (next :: more) := by
  simp only [mainExtent, List.map_cons, List.sum_cons, List.length_cons, Nat.add_sub_cancel,
    Nat.cast_add, Nat.cast_one]
  ring

end Extents

section Line

variable {vertical : Bool} {align : String} {cross extent gap main : Rat}
  {children : List (SceneNode Rat)} {node : SceneNode Rat}

/-- No child of a line stands before its start. -/
theorem le_mainPlace_of_mem_placeChildren (wide : 0 ≤ gap)
    (sized : ∀ child ∈ children, 0 ≤ child.mainSize vertical)
    (member : node ∈ placeChildren vertical align cross extent gap main children) :
    main ≤ node.mainPlace vertical := by
  induction children generalizing main with
  | nil => cases member
  | cons child more ih =>
      obtain ⟨first, others⟩ := List.forall_mem_cons.mp sized
      rcases List.mem_cons.mp member with rfl | later
      · rw [SceneNode.mainPlace_moveTo]
      · exact (le_add_of_nonneg_right (add_nonneg first wide)).trans (ih others later)

/-- On a line each child follows the one before it at the gap, by induction along the line. -/
theorem pairwise_placeChildren {spacing : Rat} (wide : 0 ≤ spacing) (enough : spacing ≤ gap)
    (sized : ∀ child ∈ children, 0 ≤ child.mainSize vertical) :
    (placeChildren vertical align cross extent gap main children).Pairwise
      (SceneNode.FollowedBy vertical spacing) := by
  induction children generalizing main with
  | nil => exact .nil
  | cons child more ih =>
      obtain ⟨first, others⟩ := List.forall_mem_cons.mp sized
      refine List.pairwise_cons.mpr ⟨fun other member => ?_, ih others⟩
      have behind := le_mainPlace_of_mem_placeChildren (wide.trans enough) others member
      rw [SceneNode.FollowedBy, SceneNode.mainPlace_moveTo, SceneNode.mainSize_moveTo]
      linarith

/-- No child of a line ends behind the space that the children take. -/
theorem mainEnd_le_of_mem_placeChildren (wide : 0 ≤ gap)
    (sized : ∀ child ∈ children, 0 ≤ child.mainSize vertical)
    (member : node ∈ placeChildren vertical align cross extent gap main children) :
    node.mainPlace vertical + node.mainSize vertical ≤ main + mainExtent vertical gap children := by
  induction children generalizing main with
  | nil => cases member
  | cons child more ih =>
      obtain ⟨first, others⟩ := List.forall_mem_cons.mp sized
      rcases List.mem_cons.mp member with rfl | later
      · rw [SceneNode.mainPlace_moveTo, SceneNode.mainSize_moveTo]
        cases more with
        | nil => rw [mainExtent_singleton]
        | cons next more =>
            have rest := mainExtent_nonneg wide others
            rw [mainExtent_cons_cons]
            linarith
      · have before := ih others later
        cases more with
        | nil => cases later
        | cons next more =>
            rw [mainExtent_cons_cons]
            linarith

/-- The children of a line stand across it between its edges. -/
theorem within_cross_of_mem_placeChildren
    (fits : ∀ child ∈ children, child.crossSize vertical ≤ extent)
    (member : node ∈ placeChildren vertical align cross extent gap main children) :
    cross ≤ node.crossPlace vertical ∧
      node.crossPlace vertical + node.crossSize vertical ≤ cross + extent := by
  induction children generalizing main with
  | nil => cases member
  | cons child more ih =>
      obtain ⟨first, others⟩ := List.forall_mem_cons.mp fits
      rcases List.mem_cons.mp member with rfl | later
      · rw [SceneNode.crossPlace_moveTo, SceneNode.crossSize_moveTo, add_assoc]
        exact ⟨le_add_of_nonneg_right (crossOffset_nonneg align extent _),
          add_le_add_right (crossOffset_add_le align first) cross⟩
      · exact ih others later

end Line

section Lines

variable {props : FrameProps Rat} {frame : SceneNode Rat} {single : Bool} {cross : Rat}
  {lines : List (Line Rat)} {line : Line Rat}

/-- Free space only widens the gaps. -/
theorem gap_le_lineStart {free : Rat} (room : 0 ≤ free) :
    props.itemSpacing.gap ≤ (lineStart props free line).2 := by
  simp only [lineStart]
  split
  · rw [gapCount_eq_cast]
    exact le_add_of_nonneg_right (div_nonneg room (Nat.cast_nonneg _))
  · split <;> exact le_rfl

/-- So do the children of a line of a frame. -/
theorem pairwise_placeLine (wide : 0 ≤ props.itemSpacing.gap)
    (sized : ∀ child ∈ line.children, 0 ≤ child.mainSize (isVertical props)) :
    (placeLine props frame single cross line).Pairwise
      (SceneNode.FollowedBy (isVertical props) props.itemSpacing.gap) :=
  pairwise_placeChildren wide (gap_le_lineStart (atLeastZero_nonneg _)) sized

/-- The line is as wide as its widest child. -/
def IsMeasured (props : FrameProps Rat) (line : Line Rat) : Prop :=
  line = measureLine (isVertical props) props.itemSpacing.gap line.children

/-- No child reaches over its line. -/
theorem IsMeasured.crossSize_le (measured : IsMeasured props line) {child : SceneNode Rat}
    (member : child ∈ line.children) : child.crossSize (isVertical props) ≤ line.cross := by
  rw [measured]
  exact le_greatest (List.mem_map_of_mem member)

theorem IsMeasured.cross_nonneg (measured : IsMeasured props line) : 0 ≤ line.cross := by
  rw [measured]
  exact greatest_nonneg _

/-- Every line of a frame is measured. -/
theorem isMeasured_of_mem_linesOf {sized : List (SceneNode Rat)}
    (member : line ∈ linesOf props frame sized) : IsMeasured props line :=
  eq_measureLine_of_mem member

/-- A line behind this place across the frame stands behind it with all its children. -/
theorem le_crossPlace_of_mem_placedLines (wide : 0 ≤ props.itemSpacing.gap)
    (measured : ∀ line ∈ lines, IsMeasured props line) {placed : List (SceneNode Rat)}
    (isLine : placed ∈ placedLines props frame false cross lines) {node : SceneNode Rat}
    (member : node ∈ placed) : cross ≤ node.crossPlace (isVertical props) := by
  induction lines generalizing cross with
  | nil => cases isLine
  | cons line more ih =>
      obtain ⟨first, others⟩ := List.forall_mem_cons.mp measured
      rcases List.mem_cons.mp isLine with rfl | later
      · exact (within_cross_of_mem_placeChildren (fun _ => first.crossSize_le) member).1
      · exact (le_add_of_nonneg_right (add_nonneg first.cross_nonneg wide)).trans (ih others later)

/-- Children of different lines do not overlap. -/
theorem pairwise_placedLines (wide : 0 ≤ props.itemSpacing.gap)
    (measured : ∀ line ∈ lines, IsMeasured props line) :
    (placedLines props frame false cross lines).Pairwise fun placed later =>
      ∀ node ∈ placed, ∀ other ∈ later, ¬node.Overlaps other := by
  induction lines generalizing cross with
  | nil => exact .nil
  | cons line more ih =>
      obtain ⟨first, others⟩ := List.forall_mem_cons.mp measured
      refine List.pairwise_cons.mpr ⟨fun later isLine node member other isOther => ?_, ih others⟩
      have before := (within_cross_of_mem_placeChildren (fun _ => first.crossSize_le) member).2
      have behind := le_crossPlace_of_mem_placedLines wide others isLine isOther
      have below := (add_le_add_right (le_add_of_nonneg_right wide) cross).trans behind
      exact SceneNode.not_overlaps_of_cross (before.trans below)

/-- A line by itself has no other line to overlap with. -/
theorem pairwise_not_overlaps_placeLines (wide : 0 ≤ props.itemSpacing.gap)
    (measured : ∀ line ∈ lines, IsMeasured props line)
    (sized : ∀ line ∈ lines, ∀ child ∈ line.children, 0 ≤ child.mainSize (isVertical props)) :
    (placeLines props frame (lines.length == 1) cross lines).Pairwise fun node other =>
      ¬node.Overlaps other := by
  rw [← flatten_placedLines, List.pairwise_flatten]
  constructor
  · intro placed isLine
    obtain ⟨line, member, _, rfl⟩ :=
      exists_of_forall₂_right (forall₂_placedLines props frame _ cross lines) isLine
    exact (pairwise_placeLine wide (sized line member)).imp fun follows => follows.not_overlaps wide
  · match lines with
    | [] => exact .nil
    | [_] => exact List.pairwise_singleton _ _
    | _ :: _ :: _ => exact pairwise_placedLines wide measured

end Lines

section Frames

variable {props : FrameProps Rat} {frame : SceneNode Rat} {children : List (SceneNode Rat)}

/-- No child overlaps another one, and those of a line follow each other with the spacing between them. -/
structure StandApart (props : FrameProps Rat) (frame : SceneNode Rat)
    (children : List (SceneNode Rat)) : Prop where
  apart : children.Pairwise fun child other => ¬child.Overlaps other
  spaced : ∀ line ∈ linesOf props frame children,
    line.children.Pairwise (SceneNode.FollowedBy (isVertical props) props.itemSpacing.gap)

/-- The children of a line are children of the frame. -/
theorem mem_of_mem_linesOf {sized : List (SceneNode Rat)} {line : Line Rat}
    (isLine : line ∈ linesOf props frame sized) {child : SceneNode Rat}
    (member : child ∈ line.children) : child ∈ sized := by
  have inside := List.mem_flatMap_of_mem isLine member
  rwa [linesOf, flatMap_breakLines] at inside

/-- Children that are placed by their final sizes stand apart. -/
theorem standApart_placed {sized : List (SceneNode Rat)} (wide : 0 ≤ props.itemSpacing.gap)
    (isSized : ∀ child ∈ placed props frame sized, child.IsSized) :
    StandApart props frame (placed props frame sized) := by
  have lengths : ∀ line ∈ linesOf props frame sized, ∀ child ∈ line.children,
      0 ≤ child.mainSize (isVertical props) := by
    intro line isLine child member
    have places : List.Forall₂ SameButPlace sized (placed props frame sized) := forall₂_placed sized
    obtain ⟨_, isPlaced, x, y, rfl⟩ :=
      exists_of_forall₂_left places (mem_of_mem_linesOf isLine member)
    exact (isSized _ isPlaced).mainSize_nonneg (isVertical props)
  constructor
  · exact pairwise_not_overlaps_placeLines wide (fun _ => isMeasured_of_mem_linesOf) lengths
  · intro line isLine
    have isPlaced := List.mem_map_of_mem (f := (·.children)) isLine
    rw [map_children_linesOf_placed] at isPlaced
    obtain ⟨before, member, _, same⟩ :=
      exists_of_forall₂_right (forall₂_placedLines props frame _ _ _) isPlaced
    rw [same]
    exact pairwise_placeLine wide (lengths before member)

/-- So do arranged children, because each has its size before it is placed. -/
theorem standApart_arranged (isAuto : props.layoutMode.isAutoLayout = true)
    (wide : 0 ≤ props.itemSpacing.gap)
    (isSized : ∀ child ∈ (arranged props frame children).2, child.IsSized) :
    StandApart props (arranged props frame children).1 (arranged props frame children).2 := by
  have placed_eq : (arranged props frame children).2 =
      placed props (hugged props frame children) (children.map (fit props frame children)) := by
    rw [arranged, if_pos isAuto]
  rw [placed_eq] at isSized ⊢
  exact standApart_placed wide isSized

end Frames

end Arrange

namespace SceneGraph

variable {graph : SceneGraph Rat} {id : Nat} {frame : SceneNode Rat} {props : FrameProps Rat}

/-- Auto layout keeps the shown children of a frame apart if no size and no spacing is negative. -/
theorem children_stand_apart (forest : graph.IsForest) (found : graph.node? id = some frame)
    (isFrame : frame.frame? = some props) (isAuto : props.layoutMode.isAutoLayout = true)
    (wide : 0 ≤ props.itemSpacing.gap)
    (isSized : ∀ child ∈ (graph.arrange id).visibleChildren id, child.IsSized) :
    ∃ later, (graph.arrange id).node? id = some later ∧
      Arrange.StandApart props later ((graph.arrange id).visibleChildren id) := by
  have sound := isForest_iff_wellFormed.mp forest
  rw [visibleChildren_arrange sound found isFrame] at isSized ⊢
  exact ⟨_, (rewrites_arrange sound found isFrame).found,
    Arrange.standApart_arranged isAuto wide isSized⟩

/-- The second child of the row stands behind the first one, and the third below them. -/
theorem row_of_three_stands_apart :
    ∃ frame props later, (addAll rowOfThree).node? 0 = some frame ∧ frame.frame? = some props ∧
      ((addAll rowOfThree).arrange 0).node? 0 = some later ∧
      Arrange.StandApart props later (((addAll rowOfThree).arrange 0).visibleChildren 0) ∧
      (((addAll rowOfThree).arrange 0).visibleChildren 0).map (fun child => (child.x, child.y)) =
        [(0, 0), (70, 0), (0, 30)] := by
  obtain ⟨frame, props, found, isFrame, isAuto, wide⟩ : ∃ frame props,
      (addAll rowOfThree).node? 0 = some frame ∧ frame.frame? = some props ∧
        props.layoutMode.isAutoLayout = true ∧ 0 ≤ props.itemSpacing.gap :=
    ⟨_, _, rfl, rfl, rfl, by decide⟩
  have isSized : ∀ child ∈ ((addAll rowOfThree).arrange 0).visibleChildren 0, child.IsSized := by
    decide +kernel
  obtain ⟨later, isLater, apart⟩ :=
    children_stand_apart isForest_rowOfThree found isFrame isAuto wide isSized
  exact ⟨frame, props, later, found, isFrame, isLater, apart, by decide +kernel⟩

end SceneGraph

end DesignScene
