/-
This file says which frames stay as they are when they are arranged once more.
-/
import DesignScene.Proofs.Render.FinalSizes

namespace DesignScene

open Outlines SceneGraph

theorem SceneNode.text?_of_frame? {α : Type} {node : SceneNode α} {props : FrameProps α}
    (isFrame : node.frame? = some props) : node.text? = none := by
  rw [frame?] at isFrame
  rw [text?]
  cases kind : node.kind with
  | text => simp [kind] at isFrame
  | _ => rfl

namespace Arrange

section Placing

variable {α : Type} [Scalar α] {props : FrameProps α} {frame other : SceneNode α}

/-- The frame decides with its sizes alone where its children are placed. -/
theorem placed_of_sizes (width_eq : other.width = frame.width)
    (height_eq : other.height = frame.height) (sized : List (SceneNode α)) :
    placed props other sized = placed props frame sized := by
  have main_eq (vertical : Bool) : other.mainSize vertical = frame.mainSize vertical := by
    rw [SceneNode.mainSize, SceneNode.mainSize, width_eq, height_eq]
  have cross_eq (vertical : Bool) : other.crossSize vertical = frame.crossSize vertical := by
    rw [SceneNode.crossSize, SceneNode.crossSize, width_eq, height_eq]
  have lines_eq : linesOf props other sized = linesOf props frame sized := by
    rw [linesOf, linesOf, wrapLimit, wrapLimit, main_eq]
  have placeLines_eq (single : Bool) (lines : List (Line α)) (cross : α) :
      placeLines props other single cross lines = placeLines props frame single cross lines := by
    induction lines generalizing cross with
    | nil => rfl
    | cons line more ih => simp only [placeLines, innerMain, innerCross, main_eq, cross_eq, ih]
  rw [placed, placed, lines_eq, placeLines_eq]

end Placing

end Arrange

section Again

variable {props : FrameProps Rat} {frame other : SceneNode Rat} {children : List (SceneNode Rat)}

/-- A frame that only moved still fits. -/
theorem Arrange.Fitted.of_sameBut (fitted : Fitted props frame children)
    (same : SameBut frame other) (width_eq : other.width = frame.width)
    (height_eq : other.height = frame.height) : Fitted props other children := by
  have placed_eq (isAuto : props.layoutMode.isAutoLayout = true) :
      placed props other children = children :=
    (placed_of_sizes width_eq height_eq children).trans (fitted.placed_eq isAuto)
  obtain ⟨x, y, width, height, rfl⟩ := same
  obtain rfl : width = frame.width := width_eq
  obtain rfl : height = frame.height := height_eq
  exact ⟨fitted.width_eq, fitted.height_eq, fitted.widths_eq, fitted.heights_eq, placed_eq⟩

/-- No other size of the frame makes a text be measured. -/
theorem Stage.Quiet.of_frame {σ : Type} {host : Host Rat σ} (quiet : Quiet host props frame children)
    (other : SceneNode Rat) : Quiet host props other children := by
  intro child member notGiven
  exact quiet child member ((Arrange.heightFor?_eq_none_congr rfl rfl).mp notGiven)

end Again

namespace Filling

variable {σ : Type} {context : RenderContext Rat σ} {document : LayoutDocument Rat} {hostState : σ}
  {above : List (ContainerSpec Rat)} {filling : Filling Rat σ} {siblings : Siblings Rat}
  {spec : ContainerSpec Rat} {items : List (LayoutItem Rat)}

/-- Right after a frame was arranged, what is inside it fits. -/
theorem Ready.exists_arranged {made : SceneNode Rat} {props : FrameProps Rat}
    (ready : filling.Ready made props) : ∃ own children, own.frame? = some props ∧
      (filling.arranged context).graph.Family filling.frame own children ∧
      Arrange.Fitted props own children ∧ Stage.Quiet context.host props own children := by
  obtain ⟨frame, -, isFrame, family⟩ := ready.family context
  refine ⟨_, _, ?_, (ready.turns context isFrame family).family, Stage.fitted_settled,
    Stage.quiet_settled⟩
  exact isFrame

/-- After its own arrangement only the place and the sizes of a frame change, as its parent gives them. -/
structure Ends (context : RenderContext Rat σ) (filling : Filling Rat σ) (siblings : Siblings Rat)
    (inner : Filling Rat σ) (graph : SceneGraph Rat) (props : FrameProps Rat)
    (own frame : SceneNode Rat) (children : List (SceneNode Rat)) : Prop where
  found : (inner.arranged context).graph.node? inner.frame = some own
  fitted : Arrange.Fitted props own children
  quiet : Stage.Quiet context.host props own children
  family : graph.Family inner.frame frame children
  isFrame : frame.frame? = some props
  same : Arrange.SameBut own frame
  width_eq : filling.widthFor? context siblings = none → frame.width = own.width
  height_eq : filling.heightFor? context siblings = none → frame.height = own.height

/-- Every frame of a container ends as its parent leaves it. -/
theorem exists_ends (fills : Fills context document hostState above filling)
    (cursor : CanvasCursor Rat) (here : filling.items = siblings.around (.container spec items)) :
    ∃ props own frame children, Ends context filling siblings
      (filling.inner context siblings spec items) (finalGraph context document cursor hostState)
      props own frame children := by
  have inside := Fills.inside fills here
  obtain ⟨made, props, ready⟩ := inside.ready
  have sound := (ready.keeps_arranged context).wellFormed (ready.sound_filled context)
  obtain ⟨own, children, isFrame, family, fitted, quiet⟩ := ready.exists_arranged
  obtain ⟨_, _, _, arranged, frame, found, inFinal, settles, width_eq, height_eq⟩ :=
    exists_settles fills cursor here
  obtain rfl : own = arranged := Option.some.inj (family.found.symm.trans found)
  have same := settles.same
  refine ⟨props, own, frame, children, family.found, fitted, quiet, ?_, ?_, same, ?_, ?_⟩
  · refine Family.of_nodes inFinal ?_ (fun child member => ?_) family.visible
    · rw [family.map_id_eq sound]
      obtain ⟨_, _, _, _, rfl⟩ := same
      rfl
    · have isChild := family.node?_child sound member
      obtain ⟨within, -⟩ := Array.getElem?_eq_some_iff.mp isChild
      rw [inside.node?_final cursor (family.lt_child sound member)
        (Nat.lt_of_lt_of_eq within (ready.size_arranged context)), isChild]
  · obtain ⟨_, _, _, _, rfl⟩ := same
    exact isFrame
  · intro notGiven
    rw [settles.width_eq, ← width_eq, notGiven, Option.elim_none]
  · intro notGiven
    rw [height_eq] at notGiven
    have noText : SceneNode.text? { own with width := frame.width } = none :=
      SceneNode.text?_of_frame? isFrame
    rw [settles.height_eq notGiven, Stage.height_measured, Stage.remeasuredHeight, noText,
      Option.getD_none]

/-- Arranging a frame once more changes nothing exactly if what is inside it fits its final sizes. -/
theorem arranged_again_iff {text : String}
    (read : Scene.readDocument context.registry text = .ok document) (cursor : CanvasCursor Rat)
    (fills : Fills context document hostState above filling)
    (here : filling.items = siblings.around (.container spec items)) :
    let inner := filling.inner context siblings spec items
    let graph := (Scene.ofText context text cursor hostState).1.1.graph
    ∃ props own frame, (inner.arranged context).graph.node? inner.frame = some own ∧
      graph.node? inner.frame = some frame ∧ frame.frame? = some props ∧
        (Stage.arrangeGraph context.host inner.frame graph = graph ↔
          Arrange.Fitted props frame (graph.visibleChildren inner.frame)) ∧
        (frame.width = own.width → frame.height = own.height →
          Stage.arrangeGraph context.host inner.frame graph = graph) ∧
        (filling.widthFor? context siblings = none → frame.width = own.width) ∧
        (filling.heightFor? context siblings = none → frame.height = own.height) := by
  obtain ⟨props, own, frame, children, ends⟩ := exists_ends fills cursor here
  have stable_iff : Stage.arrangeGraph context.host _ _ = _ ↔ _ :=
    Stage.arrangeGraph_eq_self_iff (wellFormed_finalGraph cursor) ends.family ends.isFrame
  rw [and_iff_left (ends.quiet.of_frame frame)] at stable_iff
  intro inner graph
  have graph_eq : graph = finalGraph context document cursor hostState := graph_ofText cursor read
  rw [graph_eq, ends.family.visibleChildren_eq]
  refine ⟨props, own, frame, ends.found, ends.family.found, ends.isFrame, stable_iff,
    fun width_eq height_eq => ?_, ends.width_eq, ends.height_eq⟩
  exact stable_iff.mpr (ends.fitted.of_sameBut ends.same width_eq height_eq)

section Rows

def rowOf (height grow : Option Rat) (align : Option String) : ContainerSpec Rat :=
  { ContainerSpec.standard with
    name := none
    layoutMode := .horizontal
    height := height
    counterAxisAlignItems := align
    directive := { layoutGrow := grow } }

def plainRectangle : LayoutItem Rat := .shape ⟨.rectangle, none, none, none, none, none, {}⟩

def rowDocument : LayoutDocument Rat :=
  ⟨ContainerSpec.standard, [.container (rowOf none none none) [plainRectangle]]⟩

def rowText : String :=
  "\x7b\"items\":[\x7b\"type\":\"frame\",\"layoutMode\":\"HORIZONTAL\",\"items\":[\x7b\"type\":\"native-rectangle\"\x7d]\x7d]\x7d"

set_option maxRecDepth 10000 in
theorem read_rowText :
    Scene.readDocument Stage.plainContext.registry rowText = .ok rowDocument := by
  have parsed : Json.parse rowText = some (.object [("items", .array [.object
      [("items", .array [.object [("type", .string "native-rectangle")]]),
        ("layoutMode", .string "HORIZONTAL"), ("type", .string "frame")]])]) := by
    simp only [rowText, Json.parse, Json.readText, String.reduceToList]
    rfl
  rw [Scene.readDocument, parsed]
  rfl

/-- A row that its column does not resize stays as it is. -/
theorem hugging_row_stays :
    Stage.arrangeGraph Stage.plainContext.host 1
        (Scene.ofText Stage.plainContext rowText .origin ()).1.1.graph =
      (Scene.ofText Stage.plainContext rowText .origin ()).1.1.graph := by
  let filling := ofDocument Stage.plainContext rowDocument ()
  let inner := filling.inner Stage.plainContext ⟨[], []⟩ (rowOf none none none) [plainRectangle]
  have fills : Fills Stage.plainContext rowDocument () [rowDocument.root] filling := .root
  have here : filling.items =
      Siblings.around ⟨[], []⟩ (.container (rowOf none none none) [plainRectangle]) := rfl
  obtain ⟨props, own, frame, isOwn, found, -, -, stays, -, -⟩ :=
    arranged_again_iff read_rowText .origin fills here
  have frame_eq : inner.frame = 1 := by decide +kernel
  have sameSizes : ((Scene.ofText Stage.plainContext rowText .origin ()).1.1.graph.node?
        inner.frame).map (fun node => (node.width, node.height)) =
      ((inner.arranged Stage.plainContext).graph.node? inner.frame).map fun node =>
        (node.width, node.height) := by
    rw [graph_ofText .origin read_rowText]
    decide +kernel
  rw [isOwn, found] at sameSizes
  obtain ⟨width_eq, height_eq⟩ := Prod.mk.inj (Option.some.inj sameSizes)
  rw [← frame_eq]
  exact stays width_eq height_eq

/-- A row 50 high that grows in a column 600 high. -/
def growingDocument : LayoutDocument Rat :=
  ⟨{ columnOf none {} with height := some 600 },
    [.container (rowOf (some 50) (some 1) (some "CENTER")) [plainRectangle]]⟩

def growingText : String :=
  "\x7b\"layoutContainer\":\x7b\"layoutMode\":\"VERTICAL\",\"height\":600\x7d,\"items\":[\x7b\"type\":\"frame\",\"layoutMode\":\"HORIZONTAL\",\"height\":50,\"layoutGrow\":1,\"counterAxisAlignItems\":\"CENTER\",\"items\":[\x7b\"type\":\"native-rectangle\"\x7d]\x7d]\x7d"

set_option maxRecDepth 20000 in
theorem read_growingText :
    Scene.readDocument Stage.plainContext.registry growingText = .ok growingDocument := by
  have parsed : Json.parse growingText = some (.object [("items", .array [.object
      [("counterAxisAlignItems", .string "CENTER"), ("height", .number (.int 50)),
        ("items", .array [.object [("type", .string "native-rectangle")]]),
        ("layoutGrow", .number (.int 1)), ("layoutMode", .string "HORIZONTAL"),
        ("type", .string "frame")]]), ("layoutContainer", .object
      [("height", .number (.int 600)), ("layoutMode", .string "VERTICAL")])]) := by
    simp only [growingText, Json.parse, Json.readText, String.reduceToList]
    rfl
  rw [Scene.readDocument, parsed]
  rfl

/-- A row that grew would center its rectangle anew. -/
theorem grown_row_moves :
    ¬∀ (context : RenderContext Rat Unit) (text : String) (document : LayoutDocument Rat)
        (cursor : CanvasCursor Rat) (above : List (ContainerSpec Rat)) (filling : Filling Rat Unit)
        (siblings : Siblings Rat) (spec : ContainerSpec Rat) (items : List (LayoutItem Rat)),
      Scene.readDocument context.registry text = .ok document →
      Fills context document () above filling →
      filling.items = siblings.around (.container spec items) →
        Stage.arrangeGraph context.host (filling.inner context siblings spec items).frame
            (Scene.ofText context text cursor ()).1.1.graph =
          (Scene.ofText context text cursor ()).1.1.graph := by
  intro every
  have stays := every Stage.plainContext growingText growingDocument .origin
    [growingDocument.root] (ofDocument Stage.plainContext growingDocument ()) ⟨[], []⟩
    (rowOf (some 50) (some 1) (some "CENTER")) [plainRectangle] read_growingText .root rfl
  rw [graph_ofText .origin read_growingText] at stays
  have places := congrArg (fun graph => (graph.node? 2).map (·.y)) stays
  revert places
  decide +kernel

end Rows

end Filling

end DesignScene
