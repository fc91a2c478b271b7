/-
This file shows that arranging a frame only moves and resizes the frame and its children.
-/
import DesignScene.Proofs.Scene.Graph
import DesignScene.Scene.Arrange

namespace DesignScene

open Outlines

namespace SceneNode

variable {α : Type}

@[simp] theorem nature_moveTo (vertical : Bool) (main cross : α) (node : SceneNode α) :
    (node.moveTo vertical main cross).nature = node.nature := by cases vertical <;> rfl

variable [Scalar α]

@[simp] theorem nature_resizeWidth (width : α) (node : SceneNode α) :
    (node.resizeWidth width).nature = node.nature := rfl

@[simp] theorem nature_resizeHeight (height : α) (node : SceneNode α) :
    (node.resizeHeight height).nature = node.nature := rfl

/-- Resizing leaves the nature of a node. -/
@[simp] theorem nature_resizeMain (vertical : Bool) (size : α) (node : SceneNode α) :
    (node.resizeMain vertical size).nature = node.nature := by cases vertical <;> rfl

@[simp] theorem nature_resizeCross (vertical : Bool) (size : α) (node : SceneNode α) :
    (node.resizeCross vertical size).nature = node.nature := by cases vertical <;> rfl

end SceneNode

namespace Arrange

variable {α : Type} [Scalar α]

/-- Hugging leaves the nature of a frame. -/
@[simp] theorem nature_fitAround (children : List (SceneNode α)) (frame : SceneNode α) :
    (fitAround children frame).nature = frame.nature := by
  simp only [fitAround]
  split <;> split <;> simp

/-- Stretching leaves the nature of children. -/
theorem map_nature_stretch (props : FrameProps α) (frame : SceneNode α)
    (children : List (SceneNode α)) :
    (stretch props frame children).map SceneNode.nature = children.map SceneNode.nature := by
  rw [stretch]
  split
  · rw [List.map_map]
    apply List.map_congr_left
    intro child _
    simp only [Function.comp_apply]
    split <;> simp
  · rfl

/-- Growing leaves the nature of children. -/
theorem map_nature_grow (props : FrameProps α) (frame : SceneNode α)
    (children : List (SceneNode α)) :
    (grow props frame children).map SceneNode.nature = children.map SceneNode.nature := by
  rw [grow]
  split
  · rw [List.map_map]
    apply List.map_congr_left
    intro child _
    simp only [Function.comp_apply]
    split <;> simp
  · rfl

/-- Breaking lines neither loses a child nor changes their order. -/
theorem flatMap_breakLinesAfter (vertical : Bool) (spacing : α) (limit : Option α)
    (current : List (SceneNode α)) (used : α) (children : List (SceneNode α)) :
    (breakLinesAfter vertical spacing limit current used children).flatMap (·.children) =
      current ++ children := by
  induction children generalizing current used with
  | nil => cases current <;> simp [breakLinesAfter, measureLine]
  | cons child more ih =>
      simp only [breakLinesAfter]
      split
      · simp [ih, measureLine]
      · simp [ih]

/-- The lines hold all children in their order. -/
theorem flatMap_breakLines (vertical : Bool) (spacing : α) (limit : Option α)
    (children : List (SceneNode α)) :
    (breakLines vertical spacing limit children).flatMap (·.children) = children :=
  flatMap_breakLinesAfter vertical spacing limit [] _ children

theorem map_nature_placeChildren (vertical : Bool) (align : String) (cross extent gap main : α)
    (children : List (SceneNode α)) :
    (placeChildren vertical align cross extent gap main children).map SceneNode.nature =
      children.map SceneNode.nature := by
  induction children generalizing main with
  | nil => rfl
  | cons child more ih => simp [placeChildren, ih]

/-- Placing leaves the nature of children. -/
theorem map_nature_placeLines (props : FrameProps α) (frame : SceneNode α) (single : Bool)
    (cross : α) (lines : List (Line α)) :
    (placeLines props frame single cross lines).map SceneNode.nature =
      (lines.flatMap (·.children)).map SceneNode.nature := by
  induction lines generalizing cross with
  | nil => rfl
  | cons line more ih => simp [placeLines, map_nature_placeChildren, ih]

@[simp] theorem nature_hug (props : FrameProps α) (lines : List (Line α))
    (frame : SceneNode α) : (hug props lines frame).nature = frame.nature := by
  simp only [hug]
  split <;> split <;> simp

theorem nature_auto (props : FrameProps α) (frame : SceneNode α)
    (children : List (SceneNode α)) :
    (auto props frame children).1.nature = frame.nature := by simp [auto]

/-- Auto layout gives the children in their order. -/
theorem map_nature_auto (props : FrameProps α) (frame : SceneNode α)
    (children : List (SceneNode α)) :
    (auto props frame children).2.map SceneNode.nature = children.map SceneNode.nature := by
  simp only [auto]
  rw [map_nature_placeLines, flatMap_breakLines, map_nature_grow, map_nature_stretch]

end Arrange

namespace SceneGraph

variable {α : Type}

/-- A visible child fits behind its parent. -/
theorem fits_of_mem_visibleChildren {graph : SceneGraph α} (sound : WellFormed graph.outline)
    {id : Nat} {node : SceneNode α} (member : node ∈ graph.visibleChildren id) :
    graph.Fits id node :=
  (fits_of_mem_childNodes sound (List.mem_filter.mp member).1).mono (Nat.le_succ id)

variable [Scalar α]

/-- Arranging moves and resizes nodes only and does not touch those in front of the frame. -/
theorem moves_arrange {graph : SceneGraph α} (sound : WellFormed graph.outline) (id : Nat) :
    Moves id graph (graph.arrange id) := by
  rw [arrange]
  split
  · exact .refl id graph
  · next frame found =>
      have fits := fits_of_node? sound found
      split
      · exact .refl id graph
      · next props isFrame =>
          dsimp only
          split
          · have resized := Arrange.nature_auto props frame (graph.visibleChildren id)
            have framed := moves_put (fits.of_nature_eq resized)
            refine framed.trans (moves_putAll _ ?_)
            refine fits_of_map_nature_eq (fun child member => ?_)
              (Arrange.map_nature_auto props frame (graph.visibleChildren id))
            rw [Fits, framed.map_nature_eq]
            exact fits_of_mem_visibleChildren sound member
          · exact moves_put (fits.of_nature_eq (Arrange.nature_fitAround _ frame))

end SceneGraph

end DesignScene
