/-
This file says how the boxes of nodes lie to each other.
-/
import DesignScene.Scene.Arrange
import DesignScene.Scalar.Exact
import Mathlib.Algebra.Order.Ring.Rat
import Mathlib.Tactic.Linarith

namespace DesignScene.SceneNode

section Places

variable {α : Type}

/-- The place along the direction in which children follow each other. -/
def mainPlace (vertical : Bool) (node : SceneNode α) : α := if vertical then node.y else node.x

def crossPlace (vertical : Bool) (node : SceneNode α) : α := if vertical then node.x else node.y

variable (vertical : Bool) (main cross : α) (node : SceneNode α)

/-- A node that is moved stands at its new place. -/
@[simp] theorem mainPlace_moveTo : (node.moveTo vertical main cross).mainPlace vertical = main := by
  cases vertical <;> rfl

@[simp] theorem crossPlace_moveTo :
    (node.moveTo vertical main cross).crossPlace vertical = cross := by cases vertical <;> rfl

/-- A node that is moved keeps its size. -/
@[simp] theorem mainSize_moveTo :
    (node.moveTo vertical main cross).mainSize vertical = node.mainSize vertical := by
  cases vertical <;> rfl

@[simp] theorem crossSize_moveTo :
    (node.moveTo vertical main cross).crossSize vertical = node.crossSize vertical := by
  cases vertical <;> rfl

end Places

/-- No size of the node is negative. -/
structure IsSized (node : SceneNode Rat) : Prop where
  width_nonneg : 0 ≤ node.width
  height_nonneg : 0 ≤ node.height

instance (node : SceneNode Rat) : Decidable node.IsSized :=
  decidable_of_iff (0 ≤ node.width ∧ 0 ≤ node.height)
    ⟨fun both => ⟨both.1, both.2⟩, fun sized => ⟨sized.width_nonneg, sized.height_nonneg⟩⟩

theorem IsSized.mainSize_nonneg {node : SceneNode Rat} (sized : node.IsSized) (vertical : Bool) :
    0 ≤ node.mainSize vertical := by
  cases vertical
  · exact sized.width_nonneg
  · exact sized.height_nonneg

/-- The point lies inside the node and not on its edge. -/
def Covers (node : SceneNode Rat) (x y : Rat) : Prop :=
  (node.x < x ∧ x < node.x + node.width) ∧ node.y < y ∧ y < node.y + node.height

def Overlaps (node other : SceneNode Rat) : Prop := ∃ x y, node.Covers x y ∧ other.Covers x y

variable {node other : SceneNode Rat}

/-- A node that ends before another one begins does not overlap it. -/
theorem not_overlaps_of_le (apart : node.x + node.width ≤ other.x) : ¬node.Overlaps other := by
  rintro ⟨x, y, ⟨⟨-, beforeEnd⟩, -⟩, ⟨behindStart, -⟩, -⟩
  have turned : other.x < other.x := (behindStart.trans beforeEnd).trans_le apart
  exact lt_irrefl _ turned

/-- A node does not overlap one that begins below it. -/
theorem not_overlaps_of_above (apart : node.y + node.height ≤ other.y) : ¬node.Overlaps other := by
  rintro ⟨x, y, ⟨-, -, beforeEnd⟩, -, behindStart, -⟩
  have turned : other.y < other.y := (behindStart.trans beforeEnd).trans_le apart
  exact lt_irrefl _ turned

variable {vertical : Bool}

/-- A node does not overlap one that begins behind it along the main axis. -/
theorem not_overlaps_of_main
    (apart : node.mainPlace vertical + node.mainSize vertical ≤ other.mainPlace vertical) :
    ¬node.Overlaps other := by
  cases vertical
  · exact not_overlaps_of_le apart
  · exact not_overlaps_of_above apart

/-- A node does not overlap one that begins behind it across. -/
theorem not_overlaps_of_cross
    (apart : node.crossPlace vertical + node.crossSize vertical ≤ other.crossPlace vertical) :
    ¬node.Overlaps other := by
  cases vertical
  · exact not_overlaps_of_above apart
  · exact not_overlaps_of_le apart

/-- The other node begins at least the gap behind the end of the node. -/
def FollowedBy (vertical : Bool) (gap : Rat) (node other : SceneNode Rat) : Prop :=
  node.mainPlace vertical + node.mainSize vertical + gap ≤ other.mainPlace vertical

/-- A node does not overlap one that follows it. -/
theorem FollowedBy.not_overlaps {gap : Rat} (follows : FollowedBy vertical gap node other)
    (wide : 0 ≤ gap) : ¬node.Overlaps other :=
  not_overlaps_of_main ((le_add_of_nonneg_right wide).trans follows)

/-- The node stands in what the padding leaves of the frame. -/
structure IsInside (node : SceneNode Rat) (padding : Padding Rat) (frame : SceneNode Rat) :
    Prop where
  left_le : padding.left ≤ node.x
  le_right : node.x + node.width ≤ frame.width - padding.right
  top_le : padding.top ≤ node.y
  le_bottom : node.y + node.height ≤ frame.height - padding.bottom

end DesignScene.SceneNode
