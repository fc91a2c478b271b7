/-
This file shows that the node of every item is shown when its frame is arranged.
-/
import DesignScene.Proofs.Render.Made
import DesignScene.Proofs.Render.Measured

namespace DesignScene

open Outlines SceneGraph

/-- All children of the frame are shown. -/
def SceneGraph.ShowsChildren {α : Type} (frame : Nat) (graph : SceneGraph α) : Prop :=
  ∀ (id : Nat) (node : SceneNode α), graph.node? id = some node → node.parent = some frame →
    node.visible = true

/-- A frame that shows all its children is a family with them. -/
theorem SceneGraph.ShowsChildren.family {α : Type} {graph : SceneGraph α} {id : Nat}
    (shows : graph.ShowsChildren id) (sound : WellFormed graph.outline) {frame : SceneNode α}
    (found : graph.node? id = some frame) : graph.Family id frame (graph.childNodes id) where
  found := found
  childNodes_eq := rfl
  visible child member := by
    obtain ⟨place, isChild, foundChild⟩ := List.mem_filterMap.mp member
    rw [children_of_node? found] at isChild
    obtain ⟨outline, atPlace, above⟩ := (sound.mem_children_iff (outline_of_node? found)).mp isChild
    rw [outline_of_node? foundChild] at atPlace
    obtain rfl := Option.some.inj atPlace
    exact shows place child foundChild above

namespace Stage

section Growing

variable {α σ : Type} {frame : Nat} {sketches children : List Sketch} {form : NodeForm}
  {stage later : Stage α σ}

/-- What was added hangs below the frame or below what was added. -/
theorem Grows.parent_eq_or_le (grown : Grows (some frame) sketches stage later) {id : Nat}
    (behind : stage.graph.size ≤ id) {node : SceneNode α} (found : later.graph.node? id = some node) :
    node.parent = some frame ∨ ∃ above, node.parent = some above ∧ stage.graph.size ≤ above := by
  have atPlace := outline_of_node? found
  rw [grown.outline_eq, Sketch.grow, List.getElem?_append_right (by simpa using behind)] at atPlace
  have member := List.mem_of_getElem? atPlace
  rw [length_outline] at member
  exact Sketch.parent_of_mem_outlinesAll sketches member

/-- Of a tree only the root hangs below the frame. -/
theorem Grows.le_parent (grown : Grows (some frame) [.node form children] stage later) {id : Nat}
    (behind : stage.graph.size < id) {node : SceneNode α}
    (found : later.graph.node? id = some node) :
    ∃ above, node.parent = some above ∧ stage.graph.size ≤ above := by
  have atPlace := outline_of_node? found
  have length : (adopt (some frame) (Sketch.starts stage.graph.outline.length
      [.node form children]) stage.graph.outline).length = stage.graph.size := by simp
  obtain ⟨offset, rfl⟩ := Nat.exists_eq_add_of_lt behind
  rw [grown.outline_eq, Sketch.grow, List.getElem?_append_right (by rw [length]; omega), length,
    Sketch.outlinesAll, Sketch.outlines, Sketch.outlinesAll, List.append_nil, length_outline] at atPlace
  have shifted : stage.graph.size + offset + 1 - stage.graph.size = offset + 1 := by omega
  rw [shifted, List.getElem?_cons_succ] at atPlace
  rcases Sketch.parent_of_mem_outlinesAll children (List.mem_of_getElem? atPlace) with
    root | ⟨above, isAbove, behind⟩
  · exact ⟨_, root, Nat.le_refl _⟩
  · exact ⟨above, isAbove, by omega⟩

/-- A tree with a root that is shown leaves all children shown. -/
theorem Grows.showsChildren (grown : Grows (some frame) [.node form children] stage later)
    (within : frame < stage.graph.size) (shows : stage.graph.ShowsChildren frame)
    (shown : ∃ node, later.graph.node? stage.graph.size = some node ∧ node.visible = true) :
    later.graph.ShowsChildren frame := by
  intro id node found below
  rcases Nat.lt_trichotomy id stage.graph.size with before | rfl | behind
  · rw [grown.node?_eq id before, Option.map_eq_some_iff] at found
    obtain ⟨old, wasFound, rfl⟩ := found
    have visible := shows id old wasFound
    split at below <;> split <;> exact visible below
  · obtain ⟨root, isRoot, visible⟩ := shown
    rw [found] at isRoot
    rwa [Option.some.inj isRoot]
  · obtain ⟨above, isAbove, notBefore⟩ := grown.le_parent behind found
    rw [below] at isAbove
    cases isAbove
    omega

end Growing

section Exact

variable {σ : Type} (context : RenderContext Rat σ)

/-- A frame that was just made has no children. -/
theorem showsChildren_addFrame {parent : Option Nat} (spec : ContainerSpec Rat)
    {stage : Stage Rat σ} (sound : WellFormed stage.graph.outline)
    (held : HasParent stage.graph.outline parent) :
    (stage.addFrame context parent spec).graph.ShowsChildren stage.graph.size := by
  have grown := grows_addFrame context spec held
  have framed := grown.wellFormed sound held
  have size_eq := grown.size_eq
  simp only [Sketch.sizeAll, Sketch.size] at size_eq
  intro id node found below
  have atPlace := outline_of_node? found
  have before := framed.parent_lt atPlace below
  have within := (List.getElem?_eq_some_iff.mp atPlace).1
  rw [length_outline] at within
  omega

/-- The frame of a container is a family with its items as children, and rendering settles it. -/
theorem settles_frame {frame : Nat} {stage : Stage Rat σ} {made : SceneNode Rat}
    {props : FrameProps Rat} (sound : WellFormed stage.graph.outline)
    (shows : stage.graph.ShowsChildren frame) (found : stage.graph.node? frame = some made)
    (isFrame : made.frame? = some props) :
    stage.graph.Turns (stage.arrangeFrame context frame).graph frame
      (settled context.host props made (stage.graph.childNodes frame)).1
      (settled context.host props made (stage.graph.childNodes frame)).2 :=
  turns_arrangeGraph sound (shows.family sound found) isFrame

mutual

/-- The node of an item is shown. -/
theorem visible_renderItem {parent : Nat} : ∀ (item : LayoutItem Rat) (path : String)
    {stage : Stage Rat σ}, WellFormed stage.graph.outline → parent < stage.graph.size →
      ∃ node, (renderItem context parent path item stage).graph.node? stage.graph.size =
        some node ∧ node.visible = true
  | .container spec items, path, stage, sound, within => by
      have held := hasParent_some within
      have framed := grows_addFrame context spec held
      have framedSound := framed.wellFormed sound held
      obtain ⟨fills, found⟩ := node?_addFrame context spec held
      obtain ⟨sketches, -, filled⟩ :=
        grows_renderItems context items (itemsPath path) 0 framedSound framed.lt_size
      have shows := showsChildren_renderItems items (itemsPath path) 0 framedSound framed.lt_size
        (showsChildren_addFrame context spec sound held)
      have kept := filled.node?_eq stage.graph.size framed.lt_size
      rw [found, Option.map_some, if_pos rfl] at kept
      have turned := settles_frame context
        (filled.wellFormed framedSound (hasParent_some framed.lt_size)) shows kept rfl
      exact ⟨_, turned.family.found, rfl⟩
  | .text spec, path, stage, sound, within => by
      obtain ⟨node, found, makes⟩ := exists_made context path (.text spec) sound within
      exact ⟨node, found, makes.visible⟩
  | .shape spec, path, stage, sound, within => by
      obtain ⟨node, found, makes⟩ := exists_made context path (.shape spec) sound within
      exact ⟨node, found, makes.visible⟩
  | .component spec, path, stage, sound, within => by
      obtain ⟨node, found, makes⟩ := exists_made context path (.component spec) sound within
      exact ⟨node, found, makes.visible⟩
  | .malformed place reason, path, stage, sound, within => by
      obtain ⟨node, found, makes⟩ :=
        exists_made context path (.malformed place reason) sound within
      exact ⟨node, found, makes.visible⟩

/-- Rendering items leaves all children of their frame shown. -/
theorem showsChildren_renderItems {parent : Nat} : ∀ (items : List (LayoutItem Rat))
    (path : String) (index : Nat) {stage : Stage Rat σ}, WellFormed stage.graph.outline →
      parent < stage.graph.size → stage.graph.ShowsChildren parent →
        (renderItems context parent path index items stage).graph.ShowsChildren parent
  | [], _, _, _, _, _, shows => shows
  | item :: more, path, index, stage, sound, within, shows => by
      have held := hasParent_some within
      obtain ⟨⟨form, children⟩, -, first⟩ :=
        grows_renderItem context item (elementPath path index) sound within
      have next := first.showsChildren within shows
        (visible_renderItem item (elementPath path index) sound within)
      exact showsChildren_renderItems more path (index + 1) (first.wellFormed sound held)
        (Nat.lt_trans within first.lt_size) next

end

end Exact

end Stage

end DesignScene
