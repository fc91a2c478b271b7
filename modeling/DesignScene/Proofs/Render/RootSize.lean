/-
This file shows that the root of a layout is as large as its content and its least height ask for.
-/
import DesignScene.Proofs.Render.FinalSizes
import DesignScene.Proofs.Render.Forest
import DesignScene.Proofs.Scene.Bounds

namespace DesignScene

open Outlines SceneGraph

namespace SceneNode

variable {α : Type} [Scalar α]

def right (node : SceneNode α) : α := node.x + node.width

def bottom (node : SceneNode α) : α := node.y + node.height

end SceneNode

section Extent

/-- Both edges are the greatest of the nodes. -/
theorem contentExtent_eq {α : Type} [Scalar α] (nodes : List (SceneNode α)) :
    contentExtent nodes =
      (Scalar.greatest (nodes.map SceneNode.right),
        Scalar.greatest (nodes.map SceneNode.bottom)) := by
  rw [contentExtent, Scalar.greatest, Scalar.greatest]
  generalize (Scalar.ofNat 0 : α) = right
  suffices general : ∀ bottom : α, nodes.foldl
      (fun extent node => (Scalar.larger extent.1 node.right, Scalar.larger extent.2 node.bottom))
        (right, bottom) =
      ((nodes.map SceneNode.right).foldl Scalar.larger right,
        (nodes.map SceneNode.bottom).foldl Scalar.larger bottom) from general right
  induction nodes generalizing right with
  | nil => exact fun _ => rfl
  | cons node more ih => exact fun bottom => ih _ _

variable {nodes : List (SceneNode Rat)} {node : SceneNode Rat}

/-- The content reaches at least to the right edge of every child. -/
theorem right_le_contentExtent (member : node ∈ nodes) : node.right ≤ (contentExtent nodes).1 := by
  rw [contentExtent_eq]
  exact Scalar.le_greatest (List.mem_map_of_mem member)

/-- The content reaches at least to the bottom edge of every child. -/
theorem bottom_le_contentExtent (member : node ∈ nodes) :
    node.bottom ≤ (contentExtent nodes).2 := by
  rw [contentExtent_eq]
  exact Scalar.le_greatest (List.mem_map_of_mem member)

end Extent

namespace ContainerSpec

variable {α : Type} [Scalar α]

/-- Only auto layout keeps the children away from the edges of a frame. -/
def innerPadding (spec : ContainerSpec α) : Padding α :=
  if spec.layoutMode.isAutoLayout then spec.padding else Padding.zero

/-- The frame of a specification takes its inner padding. -/
theorem padding_frameProps_eq (spec : ContainerSpec α) (hugs : Bool) (fills : List Paint) :
    (spec.frameProps hugs fills).padding = spec.innerPadding := by
  rw [frameProps, innerPadding]
  split <;> rfl

/-- A root has a width of its own if it authors one or takes the default one. -/
def hasRootWidth (spec : ContainerSpec α) : Bool := spec.width.isSome || spec.layoutMode == .none

end ContainerSpec

/-- The widened root is fixed just when a root width was given. -/
theorem Filling.fixedWidth_widened {σ : Type} (context : RenderContext Rat σ)
    {spec : ContainerSpec Rat} {node : SceneNode Rat} (own : node.fixedWidth = spec.width.isSome) :
    (widened context spec node).fixedWidth = spec.hasRootWidth := by
  cases width : spec.width <;> cases mode : spec.layoutMode <;>
    simp [widened, ContainerSpec.hasRootWidth, width, mode, own]

namespace Stage

variable {σ : Type} (context : RenderContext Rat σ) (spec : ContainerSpec Rat)

/-- A root takes no width from a parent, so its settings are those of its container. -/
theorem frame?_newFrame_root (fills : List Paint) (stage : Stage Rat σ) :
    (stage.newFrame none spec fills).frame? =
      some (spec.frameProps (spec.directive.forParent .none).hugContents fills) := by
  have noFill (layout : ChildLayout Rat) : stage.fillWidth layout none = none := by
    rw [fillWidth]
    split <;> rfl
  simp only [newFrame, newNode, SceneNode.frame?, noFill, Option.isSome_none, Bool.false_and,
    Bool.false_eq_true, if_false]
  rfl

/-- The root with the sizes that its children and its least height ask for. -/
def fitted (children : List (SceneNode Rat)) (root : SceneNode Rat) : SceneNode Rat :=
  let padding := root.frame?.elim Padding.zero (·.padding)
  let content := if children.isEmpty then 0 else (contentExtent children).2 + padding.bottom
  { root with
    height := Scalar.larger (Scalar.larger root.height content)
      (spec.directive.constraints.minHeight.getD context.config.render.rootMinHeight)
    width :=
      if !root.fixedWidth && !children.isEmpty then
        Scalar.larger root.width ((contentExtent children).1 + padding.right)
      else root.width }

variable {children : List (SceneNode Rat)} {root child : SceneNode Rat} {props : FrameProps Rat}

/-- The fitted root has at least its least height. -/
theorem least_le_height_fitted :
    spec.directive.constraints.minHeight.getD context.config.render.rootMinHeight ≤
      (fitted context spec children root).height := by
  simp only [fitted, Scalar.larger_eq_max]
  exact le_max_right _ _

/-- The fitted root holds every child and the bottom padding. -/
theorem bottom_le_height_fitted (isFrame : root.frame? = some props) (member : child ∈ children) :
    child.bottom + props.padding.bottom ≤ (fitted context spec children root).height := by
  have present : children.isEmpty = false :=
    List.isEmpty_eq_false_iff_exists_mem.mpr ⟨child, member⟩
  simp only [fitted, isFrame, Option.elim_some, present, Bool.false_eq_true, if_false,
    Scalar.larger_eq_max]
  calc child.bottom + props.padding.bottom
      ≤ (contentExtent children).2 + props.padding.bottom := by
        gcongr
        exact bottom_le_contentExtent member
    _ ≤ max root.height ((contentExtent children).2 + props.padding.bottom) := le_max_right _ _
    _ ≤ max (max root.height ((contentExtent children).2 + props.padding.bottom))
          (spec.directive.constraints.minHeight.getD context.config.render.rootMinHeight) :=
        le_max_left _ _

/-- The fitted root of free width holds every child and the right padding. -/
theorem right_le_width_fitted (isFrame : root.frame? = some props)
    (notFixed : root.fixedWidth = false) (member : child ∈ children) :
    child.right + props.padding.right ≤ (fitted context spec children root).width := by
  have present : children.isEmpty = false :=
    List.isEmpty_eq_false_iff_exists_mem.mpr ⟨child, member⟩
  simp only [fitted, isFrame, Option.elim_some, present, notFixed, Bool.not_false, Bool.and_self,
    if_true, Scalar.larger_eq_max]
  calc child.right + props.padding.right
      ≤ (contentExtent children).1 + props.padding.right := by
        gcongr
        exact right_le_contentExtent member
    _ ≤ max root.width ((contentExtent children).1 + props.padding.right) := le_max_right _ _

end Stage

section Final

variable {σ : Type} (context : RenderContext Rat σ) (document : LayoutDocument Rat)
  (cursor : CanvasCursor Rat) (hostState : σ)

/-- In the final scene the root is fitted to its children and moved to the cursor. -/
theorem exists_fitted_root :
    ∃ arranged props,
      ((Filling.ofDocument context document hostState).arranged context).graph.node? 0 =
        some arranged ∧
      arranged.frame? = some props ∧ props.padding = document.root.innerPadding ∧
      arranged.fixedWidth = document.root.hasRootWidth ∧
      (finalGraph context document cursor hostState).node? 0 =
        some (Scene.placeNode (cursor.nextX, cursor.y)
          (Stage.fitted context document.root
            (((Filling.ofDocument context document hostState).arranged context).graph.childNodes 0)
            arranged)) := by
  obtain ⟨fills, props, ready⟩ := Filling.ready_ofDocument context document hostState
  obtain ⟨frame, ⟨children, rfl⟩, isFrame, family⟩ := ready.family context
  have found := (ready.turns context isFrame family).family.found
  refine ⟨_, props, found, isFrame, ?_, ?_, ?_⟩
  · have made := ready.isFrame
    rw [Filling.frame?_widened, Stage.frame?_newFrame_root] at made
    rw [← Option.some.inj made, ContainerSpec.padding_frameProps_eq]
  · exact Filling.fixedWidth_widened context (Stage.fixedWidth_newFrame none fills _)
  · have fit := node?_update_self found (Stage.fitted context document.root
      (((Filling.ofDocument context document hostState).arranged context).graph.childNodes 0))
    exact node?_update_self fit _

/-- The children of the root are final when the root is fitted to them. -/
theorem exists_child_of_root {id : Nat}
    (member : id ∈
      ((Filling.ofDocument context document hostState).arranged context).graph.children 0) :
    ∃ child ∈ ((Filling.ofDocument context document hostState).arranged context).graph.childNodes 0,
      (finalGraph context document cursor hostState).node? id = some child := by
  obtain ⟨fills, props, ready⟩ := Filling.ready_ofDocument context document hostState
  have sound := (ready.keeps_arranged context).wellFormed (ready.sound_filled context)
  obtain ⟨child, isChild⟩ := exists_node_of_mem_children sound member
  refine ⟨child, List.mem_filterMap.mpr ⟨id, member, isChild⟩, ?_⟩
  rw [node?_finalGraph_of_pos cursor (lt_of_mem_children sound member), isChild]

end Final

namespace Scene

variable {σ : Type} {context : RenderContext Rat σ} {document : LayoutDocument Rat}

/-- The root is as high as its layout asks for and holds its children within its padding. -/
theorem root_holds_children {text : String}
    (read : readDocument context.registry text = .ok document)
    (cursor : CanvasCursor Rat) (hostState : σ) :
    let scene := (ofText context text cursor hostState).1.1
    ∃ root props, scene.graph.node? scene.root = some root ∧ root.frame? = some props ∧
      props.padding = document.root.innerPadding ∧
      root.fixedWidth = document.root.hasRootWidth ∧
      document.root.directive.constraints.minHeight.getD context.config.render.rootMinHeight ≤
        root.height ∧
      ∀ id ∈ root.children, ∃ child, scene.graph.node? id = some child ∧
        child.bottom + props.padding.bottom ≤ root.height ∧
        (root.fixedWidth = false → child.right + props.padding.right ≤ root.width) := by
  intro scene
  have graph_eq : scene.graph = finalGraph context document cursor hostState :=
    graph_ofText cursor read
  have root_eq : scene.root = 0 := root_ofText context text cursor hostState
  obtain ⟨arranged, props, found, isFrame, padding_eq, fixed_eq, inFinal⟩ :=
    exists_fitted_root context document cursor hostState
  rw [graph_eq, root_eq]
  refine ⟨_, props, inFinal, isFrame, padding_eq, fixed_eq, ?_, fun id member => ?_⟩
  · exact Stage.least_le_height_fitted context document.root
  · have inside : id ∈ arranged.children := member
    rw [← children_of_node? found] at inside
    obtain ⟨child, isChild, foundChild⟩ :=
      exists_child_of_root context document cursor hostState inside
    refine ⟨child, foundChild, ?_, fun notFixed => ?_⟩
    · exact Stage.bottom_le_height_fitted context document.root isFrame isChild
    · exact Stage.right_le_width_fitted context document.root isFrame notFixed isChild

/-- A rectangle 700 high in a row that is authored 50 high. -/
def tallDocument : LayoutDocument Rat :=
  ⟨{ ContainerSpec.standard with
      name := none
      layoutMode := .horizontal
      height := some 50
      padding := ⟨0, 7, 9, 0⟩ },
    [.shape ⟨.rectangle, none, some 700, none, none, none, {}⟩]⟩

def tallText : String :=
  "\x7b\"layoutContainer\":\x7b\"layoutMode\":\"HORIZONTAL\",\"height\":50,\"paddingRight\":7,\"paddingBottom\":9\x7d,\"items\":[\x7b\"type\":\"native-rectangle\",\"height\":700\x7d]\x7d"

set_option maxRecDepth 20000 in
theorem read_tallText :
    readDocument Stage.plainContext.registry tallText = .ok tallDocument := by
  have parsed : Json.parse tallText = some (.object [("items", .array [.object
      [("height", .number (.int 700)), ("type", .string "native-rectangle")]]),
      ("layoutContainer", .object [("height", .number (.int 50)),
        ("layoutMode", .string "HORIZONTAL"), ("paddingBottom", .number (.int 9)),
        ("paddingRight", .number (.int 7))])]) := by
    simp only [tallText, Json.parse, Json.readText, String.reduceToList]
    rfl
  rw [readDocument, parsed]
  rfl

/-- The row grows around the rectangle. -/
theorem row_holds_tall_rectangle :
    readDocument Stage.plainContext.registry tallText = .ok tallDocument ∧
      ∃ root child,
        (ofText Stage.plainContext tallText .origin ()).1.1.graph.node? 0 = some root ∧
        (ofText Stage.plainContext tallText .origin ()).1.1.graph.node? 1 = some child ∧
        600 ≤ root.height ∧ child.bottom + 9 ≤ root.height ∧ child.right + 7 ≤ root.width := by
  refine ⟨read_tallText, ?_⟩
  obtain ⟨root, props, found, -, padding_eq, fixed_eq, least, inside⟩ :=
    root_holds_children read_tallText .origin ()
  rw [root_ofText] at found
  have children_eq : root.children = [1] := by
    have computed : ((finalGraph Stage.plainContext tallDocument .origin ()).node? 0).map
        (·.children) = some [1] := by decide +kernel
    rw [← graph_ofText .origin read_tallText, found] at computed
    exact Option.some.inj computed
  have member : 1 ∈ root.children := children_eq ▸ List.mem_singleton_self 1
  obtain ⟨child, foundChild, above, before⟩ := inside 1 member
  rw [padding_eq] at above before
  exact ⟨root, child, found, foundChild, least, above, before fixed_eq⟩

end Scene

end DesignScene
