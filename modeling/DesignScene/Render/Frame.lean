/-
This file renders containers as frames.
-/
import DesignScene.Document.Node
import DesignScene.Render.Stage
import DesignScene.Scene.Arrange
import DesignScene.Scene.Width

namespace DesignScene

section Props

variable {α : Type} [Scalar α]

def sizingOf (isFixed : Bool) : SizingMode := if isFixed then .fixed else .auto

/-- Whether the size along the layout direction is authored, and whether the other one is. -/
def ContainerSpec.authoredSizes (spec : ContainerSpec α) : Bool × Bool :=
  if spec.layoutMode == .horizontal then (spec.width.isSome, spec.height.isSome)
  else (spec.height.isSome, spec.width.isSome)

/-- Authored sizes are fixed by default, and hugging makes both sizes automatic. -/
def ContainerSpec.sizing (spec : ContainerSpec α) (hugs : Bool) : SizingMode × SizingMode :=
  if hugs then (.auto, .auto)
  else
    let (primary, counter) := spec.authoredSizes
    (spec.primaryAxisSizingMode.getD (sizingOf primary),
      spec.counterAxisSizingMode.getD (sizingOf counter))

/-- Without auto layout a frame keeps its mode, its corners and its fills only. -/
def ContainerSpec.frameProps (spec : ContainerSpec α) (hugs : Bool) (fills : List Paint) :
    FrameProps α :=
  if spec.layoutMode.isAutoLayout then
    let (primary, counter) := spec.sizing hugs
    { layoutMode := spec.layoutMode
      padding := spec.padding
      itemSpacing := spec.itemSpacing
      layoutWrap := spec.layoutWrap
      primaryAxisAlignItems := spec.primaryAxisAlignItems
      counterAxisAlignItems := spec.counterAxisAlignItems
      primarySizing := primary
      counterSizing := counter
      cornerRadius := spec.cornerRadius
      fills := fills }
  else
    { FrameProps.plain with
      layoutMode := spec.layoutMode
      cornerRadius := spec.cornerRadius
      fills := fills }

/-- A width that comes from the parent is kept when the frame is arranged. -/
def FrameProps.fixWidth (props : FrameProps α) : FrameProps α :=
  match props.layoutMode with
  | .vertical => { props with counterSizing := .fixed }
  | .horizontal => { props with primarySizing := .fixed }
  | .none => props

end Props

namespace Stage

variable {α σ : Type} [Scalar α]

/-- The inner width of a column that a filling child takes. -/
def fillWidth (layout : ChildLayout α) (parent : Option Nat) (stage : Stage α σ) : Option α :=
  if layout.fillsWidth && stage.layoutModeOf parent == .vertical then
    parent.bind stage.graph.innerWidth
  else none

def frameName (parent : Option Nat) (spec : ContainerSpec α) : String :=
  spec.name.getD (if parent.isNone then "Generated Layout" else "Container")

/-- The frame of a container, without its children, is the last node of the scene. -/
def addFrame (context : RenderContext α σ) (parent : Option Nat) (spec : ContainerSpec α)
    (stage : Stage α σ) : Stage α σ :=
  let layout := spec.directive.forParent (stage.layoutModeOf parent)
  let name := frameName parent spec
  let (fills, stage) :=
    match spec.fill with
    | none => ([], stage)
    | some color => stage.paintFor context.styles name color
  let fill := stage.fillWidth layout parent
  let props := spec.frameProps layout.hugContents fills
  let props := if fill.isSome && spec.width.isNone then props.fixWidth else props
  let id := stage.graph.size
  let stage :=
    stage.addNode parent none name (.frame props)
      ((spec.width.or fill).getD (Scalar.ofNat 0)) (spec.height.getD (Scalar.ofNat 0))
  stage.updateNode id fun node =>
    { node with
      fixedWidth := spec.width.isSome
      layout := layout
      constraints := spec.directive.constraints }

/-- Only a greater difference of heights counts. It is the gap from one to the next double. -/
def heightTolerance : α := Scalar.ofRatio 1 Decimal.leadingBit

/-- The height that a wrapping text has at its present width, if it differs from its height. -/
def remeasuredHeight (host : Host α σ) (node : SceneNode α) : Option α :=
  match node.text? with
  | none => none
  | some props =>
      if props.autoResize == .height then
        let (_, height) := host.measureText props.characters props.fontSize (some node.width)
        if heightTolerance < height - node.height || heightTolerance < node.height - height then
          some height
        else none
      else none

/-- Growing and stretching may change the width of a text after it was measured. -/
def remeasure (host : Host α σ) (frame : Nat) (graph : SceneGraph α) : Option (SceneGraph α) :=
  let changed := (graph.childNodes frame).filterMap fun node =>
    (remeasuredHeight host node).map fun height => { node with height := height }
  if changed.isEmpty then none else some (graph.putAll changed)

/-- A frame is arranged once more when the height of a text changes. -/
def arrangeGraph (host : Host α σ) (frame : Nat) (graph : SceneGraph α) : SceneGraph α :=
  let graph := graph.arrange frame
  match remeasure host frame graph with
  | none => graph
  | some graph => graph.arrange frame

def arrangeFrame (context : RenderContext α σ) (frame : Nat) (stage : Stage α σ) : Stage α σ :=
  { stage with graph := arrangeGraph context.host frame stage.graph }

/-- The root is as high as its content and its least height, and as wide as its content. -/
def fitRoot (context : RenderContext α σ) (spec : ContainerSpec α) (root : Nat)
    (stage : Stage α σ) : Stage α σ :=
  let least := spec.directive.constraints.minHeight.getD context.config.render.rootMinHeight
  let children := stage.graph.childNodes root
  let (right, bottom) := contentExtent children
  stage.updateNode root fun node =>
    let padding := node.frame?.elim Padding.zero (·.padding)
    let content := if children.isEmpty then Scalar.ofNat 0 else bottom + padding.bottom
    { node with
      height := Scalar.larger (Scalar.larger node.height content) least
      width :=
        if !node.fixedWidth && !children.isEmpty then
          Scalar.larger node.width (right + padding.right)
        else node.width }

end Stage

end DesignScene
