/-
This file shows that a frame that hugs its children in both directions is as large as they are and holds them.
-/
import DesignScene.Proofs.Scene.Placing
import DesignScene.Proofs.Scene.Widths

namespace DesignScene

open Scalar

namespace Arrange

variable {props : FrameProps Rat} {frame : SceneNode Rat} {children : List (SceneNode Rat)}

/-- Nothing is left free around the children, with the gaps between them. -/
structure Hugs (props : FrameProps Rat) (frame : SceneNode Rat) (children : List (SceneNode Rat)) :
    Prop where
  main_eq : frame.mainSize (isVertical props) = mainPadding props +
    mainExtent (isVertical props) props.itemSpacing.gap children
  cross_eq : frame.crossSize (isVertical props) = crossPadding props +
    greatest (children.map (SceneNode.crossSize (isVertical props)))
  inside : ∀ child ∈ children, child.IsInside props.padding frame

section Sizes

/-- A frame that hugs its children gives no sizes to them. -/
theorem fit_of_hugging (primary : props.primarySizing = .auto) (counter : props.counterSizing = .auto) :
    fit props frame children = id := by
  have noMain (child : SceneNode Rat) : mainFor? props frame children child = none := by
    simp [mainFor?, grows, primary]
  have noCross (child : SceneNode Rat) : crossFor? props frame child = none := by
    simp [crossFor?, stretches, counter]
  funext child
  rw [fit, widthFor?, heightFor?, noMain, noCross]
  cases props.layoutMode <;> rfl

/-- Without a limit all children stand on one line. -/
theorem linesOf_of_hugging (primary : props.primarySizing = .auto) :
    linesOf props frame children = if children.isEmpty then []
      else [measureLine (isVertical props) props.itemSpacing.gap children] :=
  linesOf_of_no_limit (by simp [wrapLimit, primary]) children

/-- A frame that hugs along its main axis takes the size that its lines need. -/
theorem mainSize_hugged_of_auto (isAuto : props.layoutMode.isAutoLayout = true)
    (unbounded : frame.constraints.isEmpty = true) (primary : props.primarySizing = .auto) :
    (hugged props frame children).mainSize (isVertical props) =
      hugMain props (linesOf props frame (children.map (fit props frame children))) := by
  rw [hugged, hugWidth?, hugHeight?]
  cases mode : props.layoutMode with
  | none => simp [mode, LayoutMode.isAutoLayout] at isAuto
  | horizontal =>
      simp [isVertical, mode, primary, SceneNode.mainSize,
        SizeConstraints.clampWidth_of_isEmpty unbounded]
  | vertical =>
      simp [isVertical, mode, primary, SceneNode.mainSize,
        SizeConstraints.clampHeight_of_isEmpty unbounded]

/-- A frame that hugs across takes the size that its lines need. -/
theorem crossSize_hugged_of_auto (isAuto : props.layoutMode.isAutoLayout = true)
    (unbounded : frame.constraints.isEmpty = true) (counter : props.counterSizing = .auto) :
    (hugged props frame children).crossSize (isVertical props) =
      hugCross props (linesOf props frame (children.map (fit props frame children))) := by
  rw [hugged, hugWidth?, hugHeight?]
  cases mode : props.layoutMode with
  | none => simp [mode, LayoutMode.isAutoLayout] at isAuto
  | horizontal =>
      simp [isVertical, mode, counter, SceneNode.crossSize,
        SizeConstraints.clampHeight_of_isEmpty unbounded]
  | vertical =>
      simp [isVertical, mode, counter, SceneNode.crossSize,
        SizeConstraints.clampWidth_of_isEmpty unbounded]

/-- Along the main axis the lines need the children, the gaps and the padding. -/
theorem hugMain_of_hugging (primary : props.primarySizing = .auto) (wide : 0 ≤ props.itemSpacing.gap)
    (sized : ∀ child ∈ children, 0 ≤ child.mainSize (isVertical props)) :
    hugMain props (linesOf props frame children) =
      mainPadding props + mainExtent (isVertical props) props.itemSpacing.gap children := by
  rw [hugMain, linesOf_of_hugging primary, add_comm]
  congr 1
  cases children with
  | nil => simp [mainExtent, greatest, ofNat_eq_cast]
  | cons child more =>
      rw [if_neg (by simp), List.map_singleton, greatest_singleton, main_measureLine]
      exact max_eq_right (mainExtent_nonneg wide sized)

/-- Across, the lines need the greatest child and the padding. -/
theorem hugCross_of_hugging (primary : props.primarySizing = .auto) :
    hugCross props (linesOf props frame children) =
      crossPadding props + greatest (children.map (SceneNode.crossSize (isVertical props))) := by
  rw [hugCross, linesOf_of_hugging primary, add_comm]
  congr 1
  cases children with
  | nil => simp [sum_eq_sum, gapCount_eq_cast, greatest, ofNat_eq_cast]
  | cons child more =>
      rw [if_neg (by simp), List.map_singleton, sum_eq_sum]
      simp [gapCount_eq_cast, measureLine]

end Sizes

section Places

/-- Without free space the children begin where the line does, with the plain spacing between them. -/
theorem lineStart_zero (line : Line Rat) :
    lineStart props 0 line = (0, props.itemSpacing.gap) := by
  simp only [lineStart, zero_div, add_zero, ofNat_eq_cast, Nat.cast_zero]
  split
  · rfl
  · split <;> rfl

/-- A child within both pairs of bounds stands inside the padding. -/
theorem isInside_of_within {child : SceneNode Rat}
    (main : mainStart props ≤ child.mainPlace (isVertical props) ∧
      child.mainPlace (isVertical props) + child.mainSize (isVertical props) ≤
        mainStart props + (frame.mainSize (isVertical props) - mainPadding props))
    (cross : crossStart props ≤ child.crossPlace (isVertical props) ∧
      child.crossPlace (isVertical props) + child.crossSize (isVertical props) ≤
        crossStart props + (frame.crossSize (isVertical props) - crossPadding props)) :
    child.IsInside props.padding frame := by
  rw [mainStart, mainPadding] at main
  rw [crossStart, crossPadding] at cross
  cases vertical : isVertical props with
  | true =>
      simp only [vertical, if_true, SceneNode.mainPlace, SceneNode.mainSize, SceneNode.crossPlace,
        SceneNode.crossSize, Padding.vertical, Padding.horizontal] at main cross
      exact ⟨cross.1, by linarith [cross.2], main.1, by linarith [main.2]⟩
  | false =>
      simp only [vertical, Bool.false_eq_true, if_false, SceneNode.mainPlace, SceneNode.mainSize,
        SceneNode.crossPlace, SceneNode.crossSize, Padding.vertical, Padding.horizontal] at main cross
      exact ⟨main.1, by linarith [main.2], cross.1, by linarith [cross.2]⟩

variable {later : SceneNode Rat}

/-- In a frame of the right size the children stand on one line without free space. -/
theorem placed_of_hugging (primary : props.primarySizing = .auto) (wide : 0 ≤ props.itemSpacing.gap)
    (sized : ∀ child ∈ children, 0 ≤ child.mainSize (isVertical props))
    (main_eq : later.mainSize (isVertical props) = mainPadding props +
      mainExtent (isVertical props) props.itemSpacing.gap children) :
    placed props later children = placeChildren (isVertical props) (crossAlign props)
      (crossStart props) (innerCross props later) props.itemSpacing.gap (mainStart props) children := by
  rw [placed, linesOf_of_hugging primary]
  cases children with
  | nil => rfl
  | cons child more =>
      have noFree : atLeastZero (innerMain props later -
          (measureLine (isVertical props) props.itemSpacing.gap (child :: more)).main) = 0 := by
        rw [innerMain, main_eq, add_sub_cancel_left, main_measureLine, atLeastZero_eq_max,
          atLeastZero_eq_max, max_eq_right (mainExtent_nonneg wide sized), sub_self, max_self]
      have isLine : (child :: more).isEmpty = false := rfl
      simp only [isLine, Bool.false_eq_true, if_false, List.length_singleton, beq_self_eq_true, if_true,
        placeLines, noFree, lineStart_zero, add_zero, List.append_nil]
      rfl

/-- A frame that hugs in both directions holds its children. -/
theorem hugs_placed (primary : props.primarySizing = .auto) (wide : 0 ≤ props.itemSpacing.gap)
    (sized : ∀ child ∈ children, 0 ≤ child.mainSize (isVertical props))
    (main_eq : later.mainSize (isVertical props) = mainPadding props +
      mainExtent (isVertical props) props.itemSpacing.gap children)
    (cross_eq : later.crossSize (isVertical props) = crossPadding props +
      greatest (children.map (SceneNode.crossSize (isVertical props)))) :
    Hugs props later (placed props later children) := by
  have sameMain : (placed props later children).map (SceneNode.mainSize (isVertical props)) =
      children.map (SceneNode.mainSize (isVertical props)) :=
    map_placed props later (fun _ _ _ => rfl) children
  have sameCross : (placed props later children).map (SceneNode.crossSize (isVertical props)) =
      children.map (SceneNode.crossSize (isVertical props)) :=
    map_placed props later (fun _ _ _ => rfl) children
  have sameLength : (placed props later children).length = children.length :=
    (forall₂_placed children).length_eq.symm
  have inner_eq : innerCross props later =
      greatest (children.map (SceneNode.crossSize (isVertical props))) := by
    rw [innerCross, cross_eq, add_sub_cancel_left, atLeastZero_eq_max]
    exact max_eq_right (greatest_nonneg _)
  constructor
  · rw [main_eq, mainExtent, mainExtent, sameMain, sameLength]
  · rw [cross_eq, sameCross]
  · intro child member
    rw [placed_of_hugging primary wide sized main_eq] at member
    have fits : ∀ child ∈ children, child.crossSize (isVertical props) ≤ innerCross props later := by
      intro child isChild
      rw [inner_eq]
      exact le_greatest (List.mem_map_of_mem isChild)
    have across := within_cross_of_mem_placeChildren fits member
    refine isInside_of_within ⟨le_mainPlace_of_mem_placeChildren wide sized member, ?_⟩ ⟨across.1, ?_⟩
    · rw [main_eq, add_sub_cancel_left]
      exact mainEnd_le_of_mem_placeChildren wide sized member
    · rw [cross_eq, add_sub_cancel_left, ← inner_eq]
      exact across.2

end Places

/-- What is arranged in a frame that hugs is held by it. -/
theorem hugs_arranged (isAuto : props.layoutMode.isAutoLayout = true)
    (primary : props.primarySizing = .auto) (counter : props.counterSizing = .auto)
    (unbounded : frame.constraints.isEmpty = true) (wide : 0 ≤ props.itemSpacing.gap)
    (sized : ∀ child ∈ children, child.IsSized) :
    Hugs props (arranged props frame children).1 (arranged props frame children).2 := by
  have lengths : ∀ child ∈ children, 0 ≤ child.mainSize (isVertical props) := fun child member =>
    (sized child member).mainSize_nonneg (isVertical props)
  have unchanged : children.map (fit props frame children) = children := by
    rw [fit_of_hugging primary counter, List.map_id]
  rw [arranged, if_pos isAuto, unchanged]
  apply hugs_placed primary wide lengths
  · rw [mainSize_hugged_of_auto isAuto unbounded primary, unchanged,
      hugMain_of_hugging primary wide lengths]
  · rw [crossSize_hugged_of_auto isAuto unbounded counter, unchanged, hugCross_of_hugging primary]

end Arrange

namespace SceneGraph

variable {graph : SceneGraph Rat} {id : Nat} {frame : SceneNode Rat} {props : FrameProps Rat}

/-- A frame that hugs takes the space of its children, gaps and padding, and holds its children inside. -/
theorem hugging_frame_holds_children (forest : graph.IsForest)
    (found : graph.node? id = some frame) (isFrame : frame.frame? = some props)
    (isAuto : props.layoutMode.isAutoLayout = true) (primary : props.primarySizing = .auto)
    (counter : props.counterSizing = .auto) (unbounded : frame.constraints.isEmpty = true)
    (wide : 0 ≤ props.itemSpacing.gap) (sized : ∀ child ∈ graph.visibleChildren id, child.IsSized) :
    ∃ later, (graph.arrange id).node? id = some later ∧
      Arrange.Hugs props later ((graph.arrange id).visibleChildren id) := by
  have sound := isForest_iff_wellFormed.mp forest
  rw [visibleChildren_arrange sound found isFrame]
  exact ⟨_, (rewrites_arrange sound found isFrame).found,
    Arrange.hugs_arranged isAuto primary counter unbounded wide sized⟩

/-- A row that hugs an icon and a larger badge, with the icon in the middle across the row. -/
def huggingRow : List (Addition Rat) :=
  [⟨none, none, "Row", .frame { FrameProps.plain with
      layoutMode := .horizontal
      padding := ⟨1, 2, 3, 4⟩
      itemSpacing := .fixed 10
      counterAxisAlignItems := some "CENTER"
      primarySizing := .auto
      counterSizing := .auto }, 0, 0⟩,
    ⟨some 0, none, "Icon", .vector, 24, 24⟩,
    ⟨some 0, none, "Badge", .vector, 48, 48⟩]

/-- A row with a hidden child takes the space of the two others. -/
theorem hugging_row_holds_badge :
    ∃ frame props later, (addAll huggingRow).node? 0 = some frame ∧ frame.frame? = some props ∧
      ((addAll huggingRow).arrange 0).node? 0 = some later ∧
      Arrange.Hugs props later (((addAll huggingRow).arrange 0).visibleChildren 0) ∧
      (later.width, later.height) = (88, 52) ∧
      (((addAll huggingRow).arrange 0).visibleChildren 0).map (fun child => (child.x, child.y)) =
        [(4, 13), (38, 1)] := by
  have forest : (addAll huggingRow).IsForest := isForest_of_family rfl (by simp)
  obtain ⟨frame, props, found, isFrame, isAuto, primary, counter, unbounded, wide⟩ :
      ∃ frame props, (addAll huggingRow).node? 0 = some frame ∧ frame.frame? = some props ∧
        props.layoutMode.isAutoLayout = true ∧ props.primarySizing = .auto ∧
          props.counterSizing = .auto ∧ frame.constraints.isEmpty = true ∧
            0 ≤ props.itemSpacing.gap :=
    ⟨_, _, rfl, rfl, rfl, rfl, rfl, rfl, by decide⟩
  have sized : ∀ child ∈ (addAll huggingRow).visibleChildren 0, child.IsSized := by
    decide +kernel
  obtain ⟨later, isLater, hugs⟩ := hugging_frame_holds_children forest found isFrame isAuto primary
    counter unbounded wide sized
  have size : (((addAll huggingRow).arrange 0).node? 0).map (fun node => (node.width, node.height)) =
      some (88, 52) := by decide +kernel
  rw [isLater] at size
  exact ⟨frame, props, later, found, isFrame, isLater, hugs, Option.some.inj size, by decide +kernel⟩

end SceneGraph

end DesignScene
