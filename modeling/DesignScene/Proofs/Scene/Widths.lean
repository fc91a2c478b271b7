/-
This file shows that the heights of children decide nothing about widths.
-/
import DesignScene.Proofs.Scene.Fitted

namespace DesignScene

open Scalar

/-- The node with nothing left of its place and its height. -/
def SceneNode.flat {α : Type} [Scalar α] (node : SceneNode α) : SceneNode α :=
  { node with x := ofNat 0, y := ofNat 0, height := ofNat 0 }

namespace Arrange

section Heights

variable {α : Type} [Scalar α] {props : FrameProps α} {frame : SceneNode α}
  {children others : List (SceneNode α)} {child other : SceneNode α}

/-- Both nodes are the same but for their heights. -/
def SameButHeight (child other : SceneNode α) : Prop :=
  ∃ height, other = { child with height := height }

/-- The heights of children do not count along a row. -/
theorem hugMain_flat (isRow : props.layoutMode = .horizontal) (sized : List (SceneNode α)) :
    hugMain props (linesOf props frame (sized.map SceneNode.flat)) =
      hugMain props (linesOf props frame sized) := by
  have isWidth (node : SceneNode α) : node.mainSize (isVertical props) = node.width := by
    simp [isVertical, isRow, SceneNode.mainSize]
  have kept (node : SceneNode α) :
      node.flat.mainSize (isVertical props) = node.mainSize (isVertical props) := by
    rw [isWidth, isWidth, SceneNode.flat]
  have mapped := breakLinesAfter_map kept props.itemSpacing.gap (wrapLimit props frame) []
    (ofNat 0) sized
  rw [List.map_nil] at mapped
  rw [hugMain, hugMain, linesOf, breakLines, mapped, List.map_map]
  congr 2
  apply List.map_congr_left
  intro line member
  conv => rhs; rw [eq_measureLine_of_mem member]
  simp only [Function.comp_apply, measureLine, List.map_map, gapCount, List.length_map]
  simp only [Function.comp_def, kept]

/-- Without a limit there is one line for all children. -/
theorem breakLinesAfter_none (vertical : Bool) (spacing : α) (current : List (SceneNode α))
    (used : α) (children : List (SceneNode α)) :
    breakLinesAfter vertical spacing none current used children =
      if (current ++ children).isEmpty then []
      else [measureLine vertical spacing (current ++ children)] := by
  induction children generalizing current used with
  | nil => rw [breakLinesAfter, List.append_nil]
  | cons child more ih =>
      simp only [breakLinesAfter, overflows, Option.elim_none, Bool.and_false, Bool.false_eq_true,
        if_false]
      rw [ih, List.append_assoc, List.singleton_append]

/-- Without a limit there is one line. -/
theorem linesOf_of_no_limit (noLimit : wrapLimit props frame = none) (sized : List (SceneNode α)) :
    linesOf props frame sized =
      if sized.isEmpty then [] else [measureLine (isVertical props) props.itemSpacing.gap sized] := by
  rw [linesOf, breakLines, noLimit, breakLinesAfter_none, List.nil_append]

/-- In a column there is one line. -/
theorem linesOf_of_vertical (isColumn : props.layoutMode = .vertical) (sized : List (SceneNode α)) :
    linesOf props frame sized =
      if sized.isEmpty then [] else [measureLine true props.itemSpacing.gap sized] := by
  have noLimit : wrapLimit props frame = none := by simp [wrapLimit, isVertical, isColumn]
  rw [linesOf_of_no_limit noLimit]
  simp [isVertical, isColumn]

/-- The heights of children do not count across a column. -/
theorem hugCross_flat (isColumn : props.layoutMode = .vertical) (sized : List (SceneNode α)) :
    hugCross props (linesOf props frame (sized.map SceneNode.flat)) =
      hugCross props (linesOf props frame sized) := by
  have sameWidths : (sized.map SceneNode.flat).map (SceneNode.crossSize true) =
      sized.map (SceneNode.crossSize true) := by
    rw [List.map_map]
    rfl
  rw [linesOf_of_vertical isColumn, linesOf_of_vertical isColumn, List.isEmpty_map]
  split
  · rfl
  · simp only [hugCross, List.map_cons, List.map_nil, measureLine, sameWidths]
    rfl

/-- Nothing but the widths of the children decides at which width a frame hugs them. -/
theorem hugWidth?_congr
    (same : (others.map (fit props frame others)).map SceneNode.flat =
      (children.map (fit props frame children)).map SceneNode.flat)
    (extent_eq : (contentExtent others).1 = (contentExtent children).1) :
    hugWidth? props frame others = hugWidth? props frame children := by
  rw [hugWidth?, hugWidth?]
  cases mode : props.layoutMode with
  | none => simp only [extent_eq]
  | vertical =>
      simp only
      rw [← hugCross_flat mode, same, hugCross_flat mode]
  | horizontal =>
      simp only
      rw [← hugMain_flat mode, same, hugMain_flat mode]

/-- The width of a child does not depend on any height. -/
theorem widthFor?_congr (alike : List.Forall₂ SameButHeight children others)
    (pair : SameButHeight child other) :
    widthFor? props frame others other = widthFor? props frame children child := by
  have sameLayout : other.layout = child.layout := by
    obtain ⟨_, rfl⟩ := pair
    rfl
  rw [widthFor?, widthFor?]
  cases mode : props.layoutMode with
  | none => rfl
  | vertical => exact crossFor?_congr sameLayout fun _ => rfl
  | horizontal =>
      refine mainFor?_congr (alike.imp fun child other => ?_) sameLayout fun _ => rfl
      rintro ⟨height, rfl⟩
      exact ⟨rfl, fun _ => by simp [isVertical, mode, SceneNode.mainSize]⟩

/-- Fitted children differ in their heights only if they did before. -/
theorem flat_fit_congr (alike : List.Forall₂ SameButHeight children others) :
    (others.map (fit props frame others)).map SceneNode.flat =
      (children.map (fit props frame children)).map SceneNode.flat := by
  rw [List.map_map, List.map_map, ← List.forall₂_eq_eq_eq, List.forall₂_map_left_iff,
    List.forall₂_map_right_iff]
  refine alike.flip.imp fun other child pair => ?_
  have given : widthFor? props frame others other = widthFor? props frame children child :=
    widthFor?_congr alike pair
  obtain ⟨height, rfl⟩ := pair
  simp only [Function.comp_apply, SceneNode.flat, fit, given]

/-- The width of what is inside a frame does not depend on any height. -/
theorem extent_congr (alike : List.Forall₂ SameButHeight children others) :
    (contentExtent others).1 = (contentExtent children).1 := by
  rw [contentExtent, contentExtent]
  have started (first second : α × α) (same : second.1 = first.1) :
      (others.foldl (fun extent node =>
        (larger extent.1 (node.x + node.width), larger extent.2 (node.y + node.height)))
          second).1 =
      (children.foldl (fun extent node =>
        (larger extent.1 (node.x + node.width), larger extent.2 (node.y + node.height)))
          first).1 := by
    induction alike generalizing first second with
    | nil => exact same
    | cons pair _ ih =>
        obtain ⟨height, rfl⟩ := pair
        rw [List.foldl_cons, List.foldl_cons]
        apply ih
        rw [same]
  exact started _ _ rfl

/-- Whether a frame gives a height to a child depends on what its children ask of it. -/
theorem heightFor?_eq_none_congr {later : SceneNode α}
    (layouts : others.map (·.layout) = children.map (·.layout))
    (sameLayout : other.layout = child.layout) :
    heightFor? props later others other = none ↔ heightFor? props frame children child = none := by
  have sameTotal : totalGrow others = totalGrow children := by
    have grows := congrArg (List.map ChildLayout.layoutGrow) layouts
    rw [List.map_map, List.map_map] at grows
    exact congrArg sum grows
  rw [heightFor?, heightFor?]
  cases props.layoutMode with
  | none => exact Iff.rfl
  | vertical => simp [mainFor?, grows, sameTotal, sameLayout]
  | horizontal => simp [crossFor?, stretches, sameLayout]

end Heights

section Again

variable {props : FrameProps Rat} {frame : SceneNode Rat} {children : List (SceneNode Rat)}

/-- Arranging once more would give the same width to each child. -/
theorem widthFor?_arranged :
    List.Forall₂ (fun child other =>
      widthFor? props (arranged props frame children).1 (arranged props frame children).2 other =
        widthFor? props frame children child) children (arranged props frame children).2 := by
  cases mode : props.layoutMode with
  | none =>
      refine forall₂_arranged.imp fun child other _ => ?_
      rw [widthFor?, widthFor?, mode]
  | _ =>
      have isAuto : props.layoutMode.isAutoLayout = true := by rw [mode]; rfl
      have alike : List.Forall₂ _ children (arranged props frame children).2 := sameFit_arranged
      have shares := alike.imp fun _ _ sameFit => sameFit.sameShare isAuto
      refine alike.imp fun child other sameFit => ?_
      have sameLayout := (sameFit.sameShare isAuto).layout_eq
      have sameMain : mainFor? props (arranged props frame children).1
          (arranged props frame children).2 other = mainFor? props frame children child :=
        mainFor?_congr shares sameLayout (mainSize_hugged isAuto)
      have sameCross : crossFor? props (arranged props frame children).1 other =
          crossFor? props frame child :=
        crossFor?_congr sameLayout (crossSize_hugged isAuto)
      rw [widthFor?, widthFor?, sameMain, sameCross]

/-- Arranging once more would hug the children at the same width. -/
theorem hugWidth?_arranged :
    hugWidth? props (arranged props frame children).1 (arranged props frame children).2 =
      hugWidth? props frame children :=
  (hugWidth?_of_sameFit sameFit_arranged).trans hugWidth?_hugged

end Again

end Arrange

end DesignScene
