/-
This file says when the growing children of a frame of a fixed size fill what the other children leave.
-/
import DesignScene.Proofs.Scene.Placing
import Mathlib.Algebra.BigOperators.Ring.List

namespace DesignScene

open Scalar

namespace Arrange

section Sums

/-- A filtered sum adds nothing for what is left out. -/
theorem sum_map_filter {β : Type} (keep : β → Bool) (value : β → Rat) (members : List β) :
    ((members.filter keep).map value).sum =
      (members.map fun member => if keep member then value member else 0).sum := by
  induction members with
  | nil => rfl
  | cons first more ih =>
      rw [List.filter_cons, List.map_cons, List.sum_cons, ← ih]
      split
      · rw [List.map_cons, List.sum_cons]
      · rw [zero_add]

variable {vertical : Bool} {props : FrameProps Rat} {frame : SceneNode Rat}
  {children : List (SceneNode Rat)}

/-- The space that the growing children take along the frame. -/
def growingMain (props : FrameProps Rat) (children : List (SceneNode Rat)) : Rat :=
  ((children.filter fun child => 0 < child.layout.layoutGrow).map
    (SceneNode.mainSize (isVertical props))).sum

/-- The weights of the growing children. -/
def growingWeight (children : List (SceneNode Rat)) : Rat :=
  ((children.filter fun child => 0 < child.layout.layoutGrow).map (·.layout.layoutGrow)).sum

/-- The children that do not grow and the gaps take this space along the frame. -/
def takenMain (props : FrameProps Rat) (children : List (SceneNode Rat)) : Rat :=
  usedMain props children + props.itemSpacing.gap * (children.length - 1 : Nat)

/-- The extent is what is taken and what the growing children have. -/
theorem mainExtent_eq_add (props : FrameProps Rat) (children : List (SceneNode Rat)) :
    mainExtent (isVertical props) props.itemSpacing.gap children =
      takenMain props children + growingMain props children := by
  have parts : (children.map (SceneNode.mainSize (isVertical props))).sum =
      usedMain props children + growingMain props children := by
    rw [usedMain, sum_eq_sum, growingMain, sum_map_filter, sum_map_filter, ← List.sum_map_add]
    congr 1
    apply List.map_congr_left
    intro child _
    simp only [ofNat_eq_cast, Nat.cast_zero, decide_eq_true_eq, ← not_lt (a := (0 : Rat))]
    split <;> simp_all
  rw [mainExtent, takenMain, parts]
  ring

/-- What is not taken of a frame is free. -/
theorem max_eq_taken_add_free (props : FrameProps Rat) (frame : SceneNode Rat)
    (children : List (SceneNode Rat)) :
    max (frame.mainSize (isVertical props) - mainPadding props) (takenMain props children) =
      takenMain props children + freeMain props frame children := by
  have free_eq : freeMain props frame children = max 0
      (frame.mainSize (isVertical props) - mainPadding props - takenMain props children) := by
    rw [freeMain, atLeastZero_eq_max, takenMain, gapCount_eq_cast, sub_add_eq_sub_sub]
  rw [free_eq, max_comm, ← max_add_add_left, add_zero, add_sub_cancel]

end Sums

section Weights

variable {children : List (SceneNode Rat)}

/-- The weight of the growing children leaves out negative ones. -/
theorem growingWeight_eq_sum_max (children : List (SceneNode Rat)) :
    growingWeight children = (children.map fun child => max 0 child.layout.layoutGrow).sum := by
  rw [growingWeight, sum_map_filter]
  congr 1
  apply List.map_congr_left
  intro child _
  simp only [decide_eq_true_eq]
  split
  · next grows => exact (max_eq_right grows.le).symm
  · next stays => exact (max_eq_left (not_lt.mp stays)).symm

theorem totalGrow_eq_sum (children : List (SceneNode Rat)) :
    totalGrow children = (children.map (·.layout.layoutGrow)).sum := sum_eq_sum _

/-- Negative weights make the total smaller. -/
theorem totalGrow_le_growingWeight (children : List (SceneNode Rat)) :
    totalGrow children ≤ growingWeight children := by
  rw [totalGrow_eq_sum, growingWeight_eq_sum_max]
  exact List.sum_le_sum fun child _ => le_max_right 0 child.layout.layoutGrow

/-- The weights add up to those of the growing children exactly if none is negative. -/
theorem totalGrow_eq_growingWeight_iff : totalGrow children = growingWeight children ↔
    ∀ child ∈ children, 0 ≤ child.layout.layoutGrow := by
  induction children with
  | nil => simp [totalGrow_eq_sum, growingWeight]
  | cons child more ih =>
      have first : child.layout.layoutGrow ≤ max 0 child.layout.layoutGrow := le_max_right 0 _
      have others := totalGrow_le_growingWeight more
      have total_eq : totalGrow (child :: more) = child.layout.layoutGrow + totalGrow more := by
        rw [totalGrow_eq_sum, totalGrow_eq_sum, List.map_cons, List.sum_cons]
      have weight_eq : growingWeight (child :: more) =
          max 0 child.layout.layoutGrow + growingWeight more := by
        rw [growingWeight_eq_sum_max, growingWeight_eq_sum_max, List.map_cons, List.sum_cons]
      rw [total_eq, weight_eq, add_eq_add_iff_eq_and_eq first others, ih, List.forall_mem_cons,
        eq_comm, max_eq_right_iff]

/-- Without negative weights a growing child makes the total positive. -/
theorem totalGrow_pos (nonneg : ∀ child ∈ children, 0 ≤ child.layout.layoutGrow)
    (growing : ∃ child ∈ children, 0 < child.layout.layoutGrow) : 0 < totalGrow children := by
  obtain ⟨child, member, grows⟩ := growing
  rw [totalGrow_eq_sum]
  refine grows.trans_le (List.single_le_sum ?_ _ (List.mem_map_of_mem member))
  exact List.forall_mem_map.mpr nonneg

end Weights

section Arranged

variable {props : FrameProps Rat} {frame : SceneNode Rat} {children : List (SceneNode Rat)}

/-- An unbounded child has the main size that it is given, or else its own. -/
theorem mainSize_fit (isAuto : props.layoutMode.isAutoLayout = true) {child : SceneNode Rat}
    (unbounded : child.constraints.isEmpty = true) :
    (fit props frame children child).mainSize (isVertical props) =
      (mainFor? props frame children child).getD (child.mainSize (isVertical props)) := by
  rw [fit, widthFor?, heightFor?]
  cases mode : props.layoutMode with
  | none => simp [mode, LayoutMode.isAutoLayout] at isAuto
  | horizontal =>
      cases mainFor? props frame children child <;>
        simp [isVertical, mode, SceneNode.mainSize, SizeConstraints.clampWidth_of_isEmpty unbounded]
  | vertical =>
      cases mainFor? props frame children child <;>
        simp [isVertical, mode, SceneNode.mainSize, SizeConstraints.clampHeight_of_isEmpty unbounded]

/-- The growing children have the sizes that they are given. -/
theorem growingMain_arranged (isAuto : props.layoutMode.isAutoLayout = true)
    (unbounded : ∀ child ∈ children, child.constraints.isEmpty = true) :
    growingMain props (arranged props frame children).2 =
      ((children.filter fun child => 0 < child.layout.layoutGrow).map fun child =>
        (mainFor? props frame children child).getD (child.mainSize (isVertical props))).sum := by
  rw [growingMain, sum_map_filter, sum_map_filter, arranged, if_pos isAuto]
  congr 1
  dsimp only
  rw [map_placed _ _ (fun _ _ _ => rfl), List.map_map]
  apply List.map_congr_left
  intro child member
  rw [Function.comp_apply, mainSize_fit isAuto (unbounded child member)]
  rfl

/-- The growing children share the free space by their weights. -/
theorem growingMain_of_shared (isAuto : props.layoutMode.isAutoLayout = true)
    (primary : props.primarySizing = .fixed) (shared : 0 < totalGrow children)
    (unbounded : ∀ child ∈ children, child.constraints.isEmpty = true) :
    growingMain props (arranged props frame children).2 =
      freeMain props frame children * growingWeight children / totalGrow children := by
  have given : ∀ child ∈ children.filter fun child => 0 < child.layout.layoutGrow,
      (mainFor? props frame children child).getD (child.mainSize (isVertical props)) =
        freeMain props frame children / totalGrow children * child.layout.layoutGrow := by
    intro child member
    have grows := (List.mem_filter.mp member).2
    simp only [mainFor?, Arrange.grows, primary, ofNat_eq_cast, Nat.cast_zero, shared, grows]
    simp only [beq_self_eq_true, decide_true, Bool.and_self, if_true, Option.getD_some]
    ring
  rw [growingMain_arranged isAuto unbounded, List.map_congr_left given, List.sum_map_mul_left,
    growingWeight]
  ring

/-- Without a positive total nobody grows. -/
theorem growingMain_of_unshared (isAuto : props.layoutMode.isAutoLayout = true)
    (unshared : ¬0 < totalGrow children)
    (unbounded : ∀ child ∈ children, child.constraints.isEmpty = true) :
    growingMain props (arranged props frame children).2 = growingMain props children := by
  rw [growingMain_arranged isAuto unbounded, growingMain]
  congr 1
  apply List.map_congr_left
  intro child _
  have notGiven : mainFor? props frame children child = none := by
    simp [mainFor?, grows, ofNat_eq_cast, unshared]
  rw [notGiven, Option.getD_none]

/-- The children and gaps take the main size of the frame, the growing ones exactly what is free of it. -/
structure FillsMain (props : FrameProps Rat) (frame : SceneNode Rat)
    (children : List (SceneNode Rat)) : Prop where
  extent_eq : mainExtent (isVertical props) props.itemSpacing.gap children =
    max (frame.mainSize (isVertical props) - mainPadding props) (takenMain props children)
  growing_eq : growingMain props children = freeMain props frame children

/-- A frame is filled exactly if the growing children have what is free. -/
theorem fillsMain_iff :
    FillsMain props frame children ↔ growingMain props children = freeMain props frame children := by
  refine ⟨fun fills => fills.growing_eq, fun growing_eq => ⟨?_, growing_eq⟩⟩
  rw [mainExtent_eq_add, max_eq_taken_add_free, growing_eq]

/-- Arranging does not change what is free. -/
theorem freeMain_arranged (isAuto : props.layoutMode.isAutoLayout = true)
    (primary : props.primarySizing = .fixed) :
    freeMain props (arranged props frame children).1 (arranged props frame children).2 =
      freeMain props frame children :=
  freeMain_congr (sameFit_arranged.imp fun _ _ alike => alike.sameShare isAuto)
    (mainSize_hugged isAuto primary)

/-- Growing children fill the frame if no weight is negative, and otherwise only by chance. -/
theorem fillsMain_arranged_iff (isAuto : props.layoutMode.isAutoLayout = true)
    (primary : props.primarySizing = .fixed)
    (unbounded : ∀ child ∈ children, child.constraints.isEmpty = true)
    (growing : ∃ child ∈ children, 0 < child.layout.layoutGrow) :
    FillsMain props (arranged props frame children).1 (arranged props frame children).2 ↔
      (∀ child ∈ children, 0 ≤ child.layout.layoutGrow) ∨
      (0 < totalGrow children ∧ freeMain props frame children = 0) ∨
      (totalGrow children ≤ 0 ∧ growingMain props children = freeMain props frame children) := by
  rw [fillsMain_iff, freeMain_arranged isAuto primary]
  by_cases shared : 0 < totalGrow children
  · rw [growingMain_of_shared isAuto primary shared unbounded, div_eq_iff shared.ne',
      mul_eq_mul_left_iff, eq_comm (a := growingWeight children), totalGrow_eq_growingWeight_iff]
    simp only [shared, true_and, not_le.mpr shared, false_and, or_false]
  · have someNegative : ¬∀ child ∈ children, 0 ≤ child.layout.layoutGrow := fun nonneg =>
      shared (totalGrow_pos nonneg growing)
    rw [growingMain_of_unshared isAuto shared unbounded]
    simp only [someNegative, shared, not_lt.mp shared, false_and, true_and, false_or]

end Arranged

end Arrange

namespace SceneGraph

variable {graph : SceneGraph Rat} {id : Nat} {frame : SceneNode Rat} {props : FrameProps Rat}

/-- Children fill a frame exactly if no weight is negative, nothing is free, or the sizes chance to fit. -/
theorem growing_children_fill_iff (forest : graph.IsForest) (found : graph.node? id = some frame)
    (isFrame : frame.frame? = some props) (isAuto : props.layoutMode.isAutoLayout = true)
    (primary : props.primarySizing = .fixed)
    (unbounded : ∀ child ∈ graph.visibleChildren id, child.constraints.isEmpty = true)
    (growing : ∃ child ∈ graph.visibleChildren id, 0 < child.layout.layoutGrow) :
    ∃ later, (graph.arrange id).node? id = some later ∧
      (Arrange.FillsMain props later ((graph.arrange id).visibleChildren id) ↔
        (∀ child ∈ graph.visibleChildren id, 0 ≤ child.layout.layoutGrow) ∨
        (0 < Arrange.totalGrow (graph.visibleChildren id) ∧
          Arrange.freeMain props frame (graph.visibleChildren id) = 0) ∨
        (Arrange.totalGrow (graph.visibleChildren id) ≤ 0 ∧
          Arrange.growingMain props (graph.visibleChildren id) =
            Arrange.freeMain props frame (graph.visibleChildren id))) := by
  have sound := isForest_iff_wellFormed.mp forest
  rw [visibleChildren_arrange sound found isFrame]
  exact ⟨_, (rewrites_arrange sound found isFrame).found,
    Arrange.fillsMain_arranged_iff isAuto primary unbounded growing⟩

section Rows

def rowProps : FrameProps Rat :=
  { FrameProps.plain with layoutMode := .horizontal, itemSpacing := .fixed 10 }

def rowOfTwo : List (Addition Rat) :=
  [⟨none, none, "Row", .frame rowProps, 300, 0⟩,
    ⟨some 0, none, "First", .vector, 100, 20⟩,
    ⟨some 0, none, "Second", .vector, 100, 20⟩]

def weigh (weight : Rat) (node : SceneNode Rat) : SceneNode Rat :=
  { node with layout := { node.layout with layoutGrow := weight } }

/-- A row 300 wide, with two children of these weights. -/
def weightedRow (first second : Rat) : SceneGraph Rat :=
  ((addAll rowOfTwo).update 1 (weigh first)).update 2 (weigh second)

theorem isForest_weightedRow (first second : Rat) : (weightedRow first second).IsForest := by
  have forest : (addAll rowOfTwo).IsForest := isForest_of_family rfl (by simp)
  have kept : Keeps 0 (addAll rowOfTwo) ((addAll rowOfTwo).update 1 (weigh first)) :=
    keeps_update (Nat.zero_le 1) fun _ _ => rfl
  have keptBoth : Keeps 0 (addAll rowOfTwo) (weightedRow first second) :=
    kept.trans (keeps_update (Nat.zero_le 2) fun _ _ => rfl)
  exact isForest_iff_wellFormed.mpr (keptBoth.wellFormed (isForest_iff_wellFormed.mp forest))

/-- Two thirds of the free space go to the first child, and one third to the second. -/
theorem weighted_row_filled :
    ∃ frame later, (weightedRow 2 1).node? 0 = some frame ∧ frame.frame? = some rowProps ∧
      ((weightedRow 2 1).arrange 0).node? 0 = some later ∧
      Arrange.FillsMain rowProps later (((weightedRow 2 1).arrange 0).visibleChildren 0) ∧
      (((weightedRow 2 1).arrange 0).visibleChildren 0).map (·.width) = [580 / 3, 290 / 3] := by
  obtain ⟨frame, found, isFrame⟩ : ∃ frame, (weightedRow 2 1).node? 0 = some frame ∧
      frame.frame? = some rowProps := ⟨_, rfl, rfl⟩
  have unbounded : ∀ child ∈ (weightedRow 2 1).visibleChildren 0,
      child.constraints.isEmpty = true := by decide +kernel
  have nonneg : ∀ child ∈ (weightedRow 2 1).visibleChildren 0, 0 ≤ child.layout.layoutGrow := by
    decide +kernel
  have growing : ∃ child ∈ (weightedRow 2 1).visibleChildren 0, 0 < child.layout.layoutGrow := by
    decide +kernel
  obtain ⟨later, isLater, fills⟩ := growing_children_fill_iff (isForest_weightedRow 2 1) found isFrame
    rfl rfl unbounded growing
  exact ⟨frame, later, found, isFrame, isLater, fills.mpr (.inl nonneg), by decide +kernel⟩

/-- The negative weight of the second child makes the first one twice as wide as what is free. -/
theorem negative_weight_overflows :
    ¬∀ (graph : SceneGraph Rat) (id : Nat) (frame : SceneNode Rat) (props : FrameProps Rat),
      graph.IsForest → graph.node? id = some frame → frame.frame? = some props →
      props.layoutMode.isAutoLayout = true → props.primarySizing = .fixed →
      props.layoutWrap = false →
      (∀ child ∈ graph.visibleChildren id, child.constraints.isEmpty = true) →
      (∀ child ∈ graph.visibleChildren id, ∃ fields : Dict Json,
        (LayoutDirective.ofFields fields).layoutGrow = some child.layout.layoutGrow) →
      (∃ child ∈ graph.visibleChildren id, 0 < child.layout.layoutGrow) →
        ∃ later, (graph.arrange id).node? id = some later ∧
          Arrange.FillsMain props later ((graph.arrange id).visibleChildren id) := by
  intro every
  obtain ⟨frame, found, isFrame⟩ : ∃ frame, (weightedRow 2 (-1)).node? 0 = some frame ∧
      frame.frame? = some rowProps := ⟨_, rfl, rfl⟩
  have weights : ∀ child ∈ (weightedRow 2 (-1)).visibleChildren 0,
      child.layout.layoutGrow = 2 ∨ child.layout.layoutGrow = -1 := by decide +kernel
  have admitted : ∀ child ∈ (weightedRow 2 (-1)).visibleChildren 0, ∃ fields : Dict Json,
      (LayoutDirective.ofFields fields).layoutGrow = some child.layout.layoutGrow := by
    intro child member
    rcases weights child member with weight | weight
    · exact ⟨[("layoutGrow", .number (.int 2))], by rw [weight]; rfl⟩
    · exact ⟨[("layoutGrow", .number (.int (-1)))], by rw [weight]; rfl⟩
  obtain ⟨later, isLater, fills⟩ := every (weightedRow 2 (-1)) 0 frame rowProps
    (isForest_weightedRow 2 (-1)) found isFrame rfl rfl rfl (by decide +kernel) admitted
    (by decide +kernel)
  have sizes : (((weightedRow 2 (-1)).arrange 0).node? 0).map (fun later =>
      (Arrange.growingMain rowProps (((weightedRow 2 (-1)).arrange 0).visibleChildren 0),
        Arrange.freeMain rowProps later (((weightedRow 2 (-1)).arrange 0).visibleChildren 0))) =
          some (380, 190) := by decide +kernel
  rw [isLater] at sizes
  obtain ⟨grown, free⟩ := Prod.mk.inj (Option.some.inj sizes)
  have filled := fills.growing_eq
  rw [grown, free] at filled
  exact absurd filled (by decide)

end Rows

end SceneGraph

end DesignScene
