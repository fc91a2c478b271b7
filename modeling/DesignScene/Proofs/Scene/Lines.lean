/-
This file shows that the children of a frame break into lines that are as long as the limit allows.
-/
import DesignScene.Proofs.Scene.Placing
import DesignScene.Proofs.Scene.Widths
import Mathlib.Data.List.Chain

namespace DesignScene.Arrange

open Scalar

section Breaking

variable {α : Type} [Scalar α] {vertical : Bool} {spacing : α} {limit : Option α}

/-- No line is empty. -/
theorem children_ne_nil_of_mem {current : List (SceneNode α)} {used : α}
    {children : List (SceneNode α)} {line : Line α}
    (member : line ∈ breakLinesAfter vertical spacing limit current used children) :
    line.children ≠ [] := by
  induction children generalizing current used with
  | nil =>
      rw [breakLinesAfter] at member
      cases current with
      | nil => cases member
      | cons first more =>
          obtain rfl := List.mem_singleton.mp member
          exact List.cons_ne_nil first more
  | cons child more ih =>
      simp only [breakLinesAfter] at member
      split at member
      · next breaks =>
          rcases List.mem_cons.mp member with rfl | later
          · rw [Bool.and_eq_true, Bool.not_eq_true', List.isEmpty_eq_false_iff] at breaks
            exact breaks.1
          · exact ih later
      · exact ih member

/-- The first line begins with the first child. -/
theorem head?_children_of_head? {current : List (SceneNode α)} {used : α}
    {children : List (SceneNode α)} {line : Line α}
    (isFirst : line ∈ (breakLinesAfter vertical spacing limit current used children).head?) :
    line.children.head? = (current ++ children).head? := by
  have filled := children_ne_nil_of_mem (List.mem_of_head? isFirst)
  obtain ⟨later, split⟩ := List.head?_eq_some_iff.mp isFirst
  rw [← flatMap_breakLinesAfter vertical spacing limit current used children, split,
    List.flatMap_cons, List.head?_append_of_ne_nil _ filled]

end Breaking

variable {vertical : Bool} {spacing most : Rat}

/-- The space that children take before another one that follows them. -/
def spaceBefore (vertical : Bool) (spacing : Rat) (current : List (SceneNode Rat)) : Rat :=
  (current.map (SceneNode.mainSize vertical)).sum + spacing * current.length

theorem spaceBefore_nil : spaceBefore vertical spacing [] = ofNat 0 := by
  simp [spaceBefore, ofNat_eq_cast]

/-- Each child on a line takes its size and the spacing. -/
theorem spaceBefore_append_singleton (current : List (SceneNode Rat)) (child : SceneNode Rat) :
    spaceBefore vertical spacing (current ++ [child]) =
      spaceBefore vertical spacing current + (child.mainSize vertical + spacing) := by
  simp only [spaceBefore, List.map_append, List.sum_append, List.length_append, List.map_cons,
    List.map_nil, List.sum_cons, List.sum_nil, List.length_cons, List.length_nil, Nat.cast_add]
  ring

/-- With one more child a line is as long as the space before the child and the child together. -/
theorem mainExtent_append_singleton (current : List (SceneNode Rat)) (child : SceneNode Rat) :
    mainExtent vertical spacing (current ++ [child]) =
      spaceBefore vertical spacing current + child.mainSize vertical := by
  simp only [mainExtent, spaceBefore, List.map_append, List.sum_append, List.length_append,
    List.map_cons, List.map_nil, List.sum_cons, List.sum_nil, List.length_cons, List.length_nil,
    Nat.add_sub_cancel]
  ring

/-- The lines of all children when these ones are on the line that is being filled. -/
def linesFrom (vertical : Bool) (spacing most : Rat) (current children : List (SceneNode Rat)) :
    List (Line Rat) :=
  breakLinesAfter vertical spacing (some most) current (spaceBefore vertical spacing current) children

/-- Counting what is used is summing up what stands on the line. -/
theorem breakLines_eq_linesFrom (children : List (SceneNode Rat)) :
    breakLines vertical spacing (some most) children =
      linesFrom vertical spacing most [] children := by
  rw [linesFrom, spaceBefore_nil]
  rfl

/-- A child begins a new line exactly if the line would be longer than the limit with it. -/
theorem linesFrom_cons (current : List (SceneNode Rat)) (child : SceneNode Rat)
    (more : List (SceneNode Rat)) :
    linesFrom vertical spacing most current (child :: more) =
      if current ≠ [] ∧ most < mainExtent vertical spacing (current ++ [child]) then
        measureLine vertical spacing current :: linesFrom vertical spacing most [child] more
      else linesFrom vertical spacing most (current ++ [child]) more := by
  have breaks : (!current.isEmpty && overflows (some most) (spaceBefore vertical spacing current)
      (child.mainSize vertical)) = true ↔
        current ≠ [] ∧ most < mainExtent vertical spacing (current ++ [child]) := by
    rw [mainExtent_append_singleton, Bool.and_eq_true, Bool.not_eq_true', List.isEmpty_eq_false_iff]
    exact and_congr_right fun _ => decide_eq_true_iff
  have alone : spaceBefore vertical spacing [child] = ofNat 0 + (child.mainSize vertical + spacing) := by
    rw [← spaceBefore_nil, ← spaceBefore_append_singleton, List.nil_append]
  simp only [linesFrom, alone, spaceBefore_append_singleton, ← breaks]
  rw [breakLinesAfter]

/-- Lines of several children stay within the limit. -/
theorem main_le_of_mem_linesFrom {current children : List (SceneNode Rat)} {line : Line Rat}
    (fits : 1 < current.length → mainExtent vertical spacing current ≤ most)
    (member : line ∈ linesFrom vertical spacing most current children)
    (several : 1 < line.children.length) : line.main ≤ most := by
  induction children generalizing current with
  | nil =>
      rw [linesFrom, breakLinesAfter] at member
      split at member
      · cases member
      · obtain rfl := List.mem_singleton.mp member
        rw [main_measureLine]
        exact fits several
  | cons child more ih =>
      rw [linesFrom_cons] at member
      split at member
      · rcases List.mem_cons.mp member with rfl | later
        · rw [main_measureLine]
          exact fits several
        · exact ih (fun alone => absurd alone (by simp)) later
      · next taken =>
          refine ih (fun longer => ?_) member
          have filled : current ≠ [] := by
            rintro rfl
            simp at longer
          exact le_of_not_gt fun isOver => taken ⟨filled, isOver⟩

/-- Each line but the last one would be longer than the limit with the next child. -/
theorem isChain_linesFrom (current children : List (SceneNode Rat)) :
    (linesFrom vertical spacing most current children).IsChain fun line next =>
      ∀ first ∈ next.children.head?,
        most < (measureLine vertical spacing (line.children ++ [first])).main := by
  induction children generalizing current with
  | nil =>
      rw [linesFrom, breakLinesAfter]
      split
      · exact .nil
      · exact .singleton _
  | cons child more ih =>
      rw [linesFrom_cons]
      split
      · next breaks =>
          refine List.isChain_cons.mpr ⟨fun next isNext first isFirst => ?_, ih [child]⟩
          rw [head?_children_of_head? isNext] at isFirst
          obtain rfl := Option.some.inj isFirst
          rw [main_measureLine]
          exact breaks.2
      · exact ih _

/-- The lines hold the children in order, and each one holds as many as fit, but one at least. -/
structure BreaksInto (vertical : Bool) (spacing : Rat) (limit : Option Rat)
    (children : List (SceneNode Rat)) (lines : List (Line Rat)) : Prop where
  children_eq : lines.flatMap (·.children) = children
  measured : ∀ line ∈ lines, line = measureLine vertical spacing line.children
  filled : ∀ line ∈ lines, line.children ≠ []
  within : ∀ most ∈ limit, ∀ line ∈ lines, 1 < line.children.length → line.main ≤ most
  full : ∀ most ∈ limit, lines.IsChain fun line next => ∀ first ∈ next.children.head?,
    most < (measureLine vertical spacing (line.children ++ [first])).main
  single : limit = none → lines.length ≤ 1

/-- Children break into a new line only where the next one does not fit, and always there. -/
theorem breaksInto_breakLines (vertical : Bool) (spacing : Rat) (limit : Option Rat)
    (children : List (SceneNode Rat)) :
    BreaksInto vertical spacing limit children (breakLines vertical spacing limit children) where
  children_eq := flatMap_breakLines vertical spacing limit children
  measured _ := eq_measureLine_of_mem
  filled _ := children_ne_nil_of_mem
  within most isLimit line member several := by
    obtain rfl := Option.mem_def.mp isLimit
    rw [breakLines_eq_linesFrom] at member
    exact main_le_of_mem_linesFrom (fun longer => absurd longer (by simp)) member several
  full most isLimit := by
    obtain rfl := Option.mem_def.mp isLimit
    rw [breakLines_eq_linesFrom]
    exact isChain_linesFrom [] children
  single noLimit := by
    rw [noLimit, breakLines, breakLinesAfter_none]
    split
    · exact Nat.zero_le 1
    · exact Nat.le_refl 1

/-- Two boxes with the space between them are as long as the limit, so that they share a line. -/
example :
    let box := SceneGraph.newNode 0 none none "Box" .vector (80 : Rat) 30
    (breakLines false 10 (some 170) [box, box, box]).map (·.children.length) = [2, 1] := by
  decide +kernel

end DesignScene.Arrange
