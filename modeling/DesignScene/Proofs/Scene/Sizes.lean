/-
This file says which sizes arranging a frame gives to the frame and to its children.
-/
import DesignScene.Proofs.Scene.Family

namespace DesignScene

open Scalar

/-- The node as it would stand in a corner. -/
def SceneNode.unplaced {α : Type} [Scalar α] (node : SceneNode α) : SceneNode α :=
  { node with x := ofNat 0, y := ofNat 0 }

namespace Arrange

section Definitions

variable {α : Type} [Scalar α] (props : FrameProps α) (frame : SceneNode α)
  (children : List (SceneNode α))

/-- The child takes the whole inner size across a frame whose size is fixed there. -/
def stretches (child : SceneNode α) : Bool :=
  props.counterSizing == .fixed && child.layout.layoutAlign == .stretch

/-- The child takes a share of what is free along a frame whose size is fixed there. -/
def grows (child : SceneNode α) : Bool :=
  (props.primarySizing == .fixed && ofNat 0 < totalGrow children) &&
    ofNat 0 < child.layout.layoutGrow

def crossFor? (child : SceneNode α) : Option α :=
  if stretches props child then some (innerCross props frame) else none

def mainFor? (child : SceneNode α) : Option α :=
  if grows props children child then
    some (freeMain props frame children * child.layout.layoutGrow / totalGrow children)
  else none

/-- The width that the frame gives to a child, before the bounds of the child apply. -/
def widthFor? (child : SceneNode α) : Option α :=
  match props.layoutMode with
  | .none => none
  | .vertical => crossFor? props frame child
  | .horizontal => mainFor? props frame children child

def heightFor? (child : SceneNode α) : Option α :=
  match props.layoutMode with
  | .none => none
  | .vertical => mainFor? props frame children child
  | .horizontal => crossFor? props frame child

/-- The child with the sizes that the frame gives to it, within its own bounds. -/
def fit (child : SceneNode α) : SceneNode α :=
  { child with
    width :=
      (widthFor? props frame children child).elim child.width child.constraints.clampWidth
    height :=
      (heightFor? props frame children child).elim child.height child.constraints.clampHeight }

/-- The lines of the children with these sizes. -/
def linesOf (sized : List (SceneNode α)) : List (Line α) :=
  breakLines (isVertical props) props.itemSpacing.gap (wrapLimit props frame) sized

/-- The width at which the frame hugs its children, where it does so. -/
def hugWidth? : Option α :=
  match props.layoutMode with
  | .none =>
      let right := (contentExtent children).1
      if !frame.fixedWidth && ofNat 0 < right then some right else none
  | .vertical =>
      if props.counterSizing == .fixed then none
      else some (hugCross props (linesOf props frame (children.map (fit props frame children))))
  | .horizontal =>
      if props.primarySizing == .fixed then none
      else some (hugMain props (linesOf props frame (children.map (fit props frame children))))

def hugHeight? : Option α :=
  match props.layoutMode with
  | .none => if frame.height ≤ ofNat 0 then some (contentExtent children).2 else none
  | .vertical =>
      if props.primarySizing == .fixed then none
      else some (hugMain props (linesOf props frame (children.map (fit props frame children))))
  | .horizontal =>
      if props.counterSizing == .fixed then none
      else some (hugCross props (linesOf props frame (children.map (fit props frame children))))

/-- The frame with the sizes at which it hugs its children, within its own bounds. -/
def hugged : SceneNode α :=
  { frame with
    width := (hugWidth? props frame children).elim frame.width frame.constraints.clampWidth
    height := (hugHeight? props frame children).elim frame.height frame.constraints.clampHeight }

/-- The children with the sizes that they have, each at its place in the frame. -/
def placed (sized : List (SceneNode α)) : List (SceneNode α) :=
  placeLines props frame ((linesOf props frame sized).length == 1) (crossStart props)
    (linesOf props frame sized)

/-- The frame and its children after the frame was arranged. -/
def arranged : SceneNode α × List (SceneNode α) :=
  (hugged props frame children,
    if props.layoutMode.isAutoLayout then
      placed props (hugged props frame children) (children.map (fit props frame children))
    else children)

end Definitions

section Steps

variable {α : Type} [Scalar α] (props : FrameProps α) (frame : SceneNode α)
  (children : List (SceneNode α))

/-- Each child is stretched by itself. -/
theorem stretch_eq_map :
    stretch props frame children = children.map fun child =>
      (crossFor? props frame child).elim child (child.resizeCross (isVertical props)) := by
  rw [stretch]
  split
  · next isFixed =>
      apply List.map_congr_left
      intro child _
      simp only [crossFor?, stretches, isFixed, Bool.true_and]
      split <;> rfl
  · next isFixed =>
      simp [crossFor?, stretches, isFixed]

/-- A fitted child is stretched first and grows then. -/
theorem fit_eq_resize (isAuto : props.layoutMode.isAutoLayout = true) (child : SceneNode α) :
    fit props frame children child =
      (mainFor? props frame children child).elim
        ((crossFor? props frame child).elim child (child.resizeCross (isVertical props)))
        (((crossFor? props frame child).elim child (child.resizeCross (isVertical props))).resizeMain
          (isVertical props)) := by
  rw [fit, widthFor?, heightFor?]
  cases mode : props.layoutMode with
  | none => simp [mode, LayoutMode.isAutoLayout] at isAuto
  | _ =>
      cases crossFor? props frame child <;> cases mainFor? props frame children child <;>
        simp [isVertical, mode, SceneNode.resizeCross, SceneNode.resizeMain, SceneNode.resizeWidth,
          SceneNode.resizeHeight]

end Steps

section Shares

variable {α : Type} [Scalar α] {props : FrameProps α} {frame later : SceneNode α}
  {children others : List (SceneNode α)} {child other : SceneNode α}

/-- Both take the same share of the frame, or the same size along it. -/
structure SameShare (props : FrameProps α) (child other : SceneNode α) : Prop where
  layout_eq : other.layout = child.layout
  mainSize_eq : child.layout.layoutGrow ≤ ofNat 0 →
    other.mainSize (isVertical props) = child.mainSize (isVertical props)

theorem totalGrow_congr (same : List.Forall₂ (SameShare props) children others) :
    totalGrow others = totalGrow children := by
  rw [totalGrow, totalGrow]
  congr 1
  induction same with
  | nil => rfl
  | cons first _ ih => rw [List.map_cons, List.map_cons, first.layout_eq, ih]

/-- Children that share alike use the same space. -/
theorem usedMain_congr (same : List.Forall₂ (SameShare props) children others) :
    usedMain props others = usedMain props children := by
  rw [usedMain, usedMain]
  congr 1
  induction same with
  | nil => rfl
  | cons first _ ih =>
      rw [List.filter_cons, List.filter_cons, first.layout_eq]
      split
      · next stays =>
          rw [List.map_cons, List.map_cons, first.mainSize_eq (of_decide_eq_true stays), ih]
      · exact ih

/-- They leave the same space free. -/
theorem freeMain_congr (same : List.Forall₂ (SameShare props) children others)
    (sameMain : later.mainSize (isVertical props) = frame.mainSize (isVertical props)) :
    freeMain props later others = freeMain props frame children := by
  rw [freeMain, freeMain, sameMain, usedMain_congr same, gapCount, gapCount, same.length_eq]

/-- Each of them is given the same main size. -/
theorem mainFor?_congr (same : List.Forall₂ (SameShare props) children others)
    (sameLayout : other.layout = child.layout)
    (sameMain : props.primarySizing = .fixed →
      later.mainSize (isVertical props) = frame.mainSize (isVertical props)) :
    mainFor? props later others other = mainFor? props frame children child := by
  rw [mainFor?, mainFor?, grows, grows, totalGrow_congr same, sameLayout]
  split
  · next shares =>
      rw [Bool.and_eq_true, Bool.and_eq_true, beq_iff_eq] at shares
      rw [freeMain_congr same (sameMain shares.1.1)]
  · rfl

/-- A child is given the same cross size in frames of one cross size. -/
theorem crossFor?_congr (sameLayout : other.layout = child.layout)
    (sameCross : props.counterSizing = .fixed →
      later.crossSize (isVertical props) = frame.crossSize (isVertical props)) :
    crossFor? props later other = crossFor? props frame child := by
  rw [crossFor?, crossFor?, stretches, stretches, sameLayout]
  split
  · next takesAll =>
      rw [Bool.and_eq_true, beq_iff_eq] at takesAll
      rw [innerCross, innerCross, sameCross takesAll.1]
  · rfl

theorem forall₂_map_self {β : Type} {related : β → β → Prop} {change : β → β}
    (each : ∀ member, related member (change member)) (members : List β) :
    List.Forall₂ related members (members.map change) := by
  rw [List.forall₂_map_right_iff, List.forall₂_same]
  exact fun member _ => each member

theorem sameShare_stretched (child : SceneNode α) :
    SameShare props child
      ((crossFor? props frame child).elim child (child.resizeCross (isVertical props))) := by
  cases crossFor? props frame child with
  | none => exact ⟨rfl, fun _ => rfl⟩
  | some size =>
      cases vertical : isVertical props <;>
        exact ⟨rfl, fun _ => by simp [vertical, SceneNode.resizeCross, SceneNode.resizeWidth,
          SceneNode.resizeHeight, SceneNode.mainSize]⟩

/-- Stretching and growing come to one change of each child. -/
theorem grow_stretch_eq_map (isAuto : props.layoutMode.isAutoLayout = true) :
    grow props frame (stretch props frame children) = children.map (fit props frame children) := by
  have same : List.Forall₂ (SameShare props) children (stretch props frame children) := by
    rw [stretch_eq_map]
    exact forall₂_map_self sameShare_stretched children
  have grown : grow props frame (stretch props frame children) =
      (stretch props frame children).map fun child =>
        (mainFor? props frame (stretch props frame children) child).elim child
          (child.resizeMain (isVertical props)) := by
    rw [grow]
    split
    · next shared =>
        apply List.map_congr_left
        intro child _
        simp only [mainFor?, grows, shared, Bool.true_and]
        split <;> simp_all
    · next shared => simp [mainFor?, grows, shared]
  rw [grown]
  conv => lhs; arg 2; rw [stretch_eq_map]
  rw [List.map_map]
  apply List.map_congr_left
  intro child _
  rw [Function.comp_apply, fit_eq_resize props frame children isAuto,
    mainFor?_congr same (sameShare_stretched child).layout_eq fun _ => rfl]

end Shares

section Arranging

variable {α : Type} [Scalar α] {props : FrameProps α} {frame : SceneNode α}
  {children : List (SceneNode α)}

/-- Hugging the lines is hugging the fitted children. -/
theorem hug_eq_hugged (isAuto : props.layoutMode.isAutoLayout = true) :
    hug props (linesOf props frame (children.map (fit props frame children))) frame =
      hugged props frame children := by
  rw [hug, hugged, hugWidth?, hugHeight?]
  cases mode : props.layoutMode with
  | none => simp [mode, LayoutMode.isAutoLayout] at isAuto
  | _ =>
      cases primary : props.primarySizing <;> cases counter : props.counterSizing <;>
        simp [isVertical, mode, SceneNode.resizeCross, SceneNode.resizeMain, SceneNode.resizeWidth,
          SceneNode.resizeHeight]

/-- Without a layout a frame hugs what is inside it. -/
theorem fitAround_eq_hugged (noLayout : props.layoutMode = .none) :
    fitAround children frame = hugged props frame children := by
  rw [hugged, hugWidth?, hugHeight?]
  simp only [fitAround, noLayout]
  split <;> split <;> simp_all [SceneNode.resizeWidth, SceneNode.resizeHeight]

/-- A size that is fixed is not hugged. -/
theorem mainSize_hugged (isAuto : props.layoutMode.isAutoLayout = true)
    (isFixed : props.primarySizing = .fixed) :
    (hugged props frame children).mainSize (isVertical props) =
      frame.mainSize (isVertical props) := by
  rw [hugged, hugWidth?, hugHeight?]
  cases mode : props.layoutMode with
  | none => simp [mode, LayoutMode.isAutoLayout] at isAuto
  | _ => simp [isVertical, mode, isFixed, SceneNode.mainSize]

/-- A fixed cross size stays. -/
theorem crossSize_hugged (isAuto : props.layoutMode.isAutoLayout = true)
    (isFixed : props.counterSizing = .fixed) :
    (hugged props frame children).crossSize (isVertical props) =
      frame.crossSize (isVertical props) := by
  rw [hugged, hugWidth?, hugHeight?]
  cases mode : props.layoutMode with
  | none => simp [mode, LayoutMode.isAutoLayout] at isAuto
  | _ => simp [isVertical, mode, isFixed, SceneNode.crossSize]

/-- A frame that has hugged breaks the same lines. -/
theorem linesOf_hugged (isAuto : props.layoutMode.isAutoLayout = true)
    (sized : List (SceneNode α)) :
    linesOf props (hugged props frame children) sized = linesOf props frame sized := by
  have sameLimit : wrapLimit props (hugged props frame children) = wrapLimit props frame := by
    rw [wrapLimit, wrapLimit]
    split
    · next wraps =>
        rw [Bool.and_eq_true, beq_iff_eq] at wraps
        rw [mainSize_hugged isAuto wraps.2]
    · rfl
  rw [linesOf, linesOf, sameLimit]

/-- Auto layout fits, hugs and places. -/
theorem auto_eq_arranged (isAuto : props.layoutMode.isAutoLayout = true) :
    auto props frame children = arranged props frame children := by
  simp only [auto]
  rw [grow_stretch_eq_map isAuto, arranged, if_pos isAuto, placed, linesOf_hugged isAuto,
    ← hug_eq_hugged isAuto, linesOf]

end Arranging

end Arrange

end DesignScene
