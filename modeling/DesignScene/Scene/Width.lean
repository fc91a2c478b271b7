/-
This file finds the width that the content of a frame may take.
-/
import DesignScene.Scene.Graph

namespace DesignScene.SceneGraph

variable {α : Type} [Scalar α]

def insetOf (node : SceneNode α) : Option α := node.frame?.map fun props => props.padding.horizontal

/-- This function climbs at most `steps` nodes, below which the paddings add up to `inset`. -/
def effectiveWidthFrom (graph : SceneGraph α) : Nat → α → Nat → Option (α × α)
  | 0, _, _ => none
  | steps + 1, inset, id =>
      match graph.node? id with
      | none => none
      | some node =>
          let inset := (insetOf node).elim inset (inset + ·)
          if node.fixedWidth then some (node.width, Scalar.atLeastZero (node.width - inset))
          else if node.layout.fillsWidth then
            node.parent.bind fun parent => effectiveWidthFrom graph steps inset parent
          else none

/-- The width of the nearest frame with a fixed width, and what its paddings leave of it. -/
def effectiveWidth (graph : SceneGraph α) (parent : Nat) : Option (α × α) :=
  graph.effectiveWidthFrom (parent + 1) (Scalar.ofNat 0) parent

/-- The width inside a node, if it is fixed. -/
def innerWidth (graph : SceneGraph α) (id : Nat) : Option α :=
  match graph.node? id with
  | none => none
  | some node =>
      if node.fixedWidth then
        some (Scalar.atLeastZero (node.width - (insetOf node).getD (Scalar.ofNat 0)))
      else none

end DesignScene.SceneGraph
