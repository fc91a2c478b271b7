/-
This file turns layouts into scenes and places them on the canvas.
-/
import DesignScene.Document.Identifiers
import DesignScene.Document.Tabs
import DesignScene.Render.Item

namespace DesignScene

/-- Where the next root frame goes. -/
structure CanvasCursor (α : Type) where
  nextX : α
  y : α

def CanvasCursor.origin {α : Type} [Scalar α] : CanvasCursor α := ⟨Scalar.ofNat 0, Scalar.ofNat 0⟩

/-- The place of a frame, and the cursor behind it; a negative width counts as none. -/
def CanvasCursor.place {α : Type} [Scalar α] (cursor : CanvasCursor α) (width gap : α) :
    (α × α) × CanvasCursor α :=
  ((cursor.nextX, cursor.y), { cursor with nextX := cursor.nextX + (Scalar.atLeastZero width + gap) })

structure Scene (α : Type) where
  graph : SceneGraph α
  root : Nat
  report : RenderReport

namespace Scene

variable {α σ : Type} [Scalar α]

def placeNode (position : α × α) (node : SceneNode α) : SceneNode α :=
  { node with x := position.1, y := position.2 }

/-- The root frame takes the place of the cursor, which moves behind it. -/
def placeRoot (config : RenderConfig α) (cursor : CanvasCursor α) (scene : Scene α) :
    Scene α × CanvasCursor α :=
  let width := (scene.graph.node? scene.root).elim (Scalar.ofNat 0) (·.width)
  let (position, cursor) := cursor.place width config.canvasGap
  ({ scene with graph := scene.graph.update scene.root (placeNode position) }, cursor)

def errorFrame : NodeKind α := .frame { FrameProps.plain with fills := [.ofColor ⟨1.0, 0.9, 0.9⟩] }

/-- The scene of a layout that cannot be read is one frame with a message to the user. -/
def fallback (config : RenderConfig α) (error : RenderError) : Scene α :=
  let graph : SceneGraph α :=
    SceneGraph.add {} none none "Error Frame" errorFrame config.fallbackFrameWidth
      config.fallbackFrameHeight
  { graph := graph.update 0 fun node => { node with fixedWidth := true }
    root := 0
    report := { notification := some ("Layout generation failed: " ++ error.message) } }

def ofDocument (context : RenderContext α σ) (document : LayoutDocument α) (hostState : σ) :
    Scene α × σ :=
  let stage := (Stage.start hostState).renderDocument context document
  (⟨stage.graph, 0, stage.report⟩, stage.hostState)

/-- The layout with its tabs joined and its open identifiers filled in. -/
def prepare (registry : Registry) (layout : Json) : Json :=
  (IdResolution.resolve registry (Tabs.merge layout).1).1

def documentFault (error : DocumentError) : RenderError := .structural error.path error.reason

def readDocument (registry : Registry) (text : String) : Except RenderError (LayoutDocument α) :=
  match Json.parse text with
  | none => .error .invalidJson
  | some layout => (LayoutDocument.ofJson (prepare registry layout)).mapError documentFault

/-- Only a text that is no layout document gives the fallback scene. -/
def ofText (context : RenderContext α σ) (text : String) (cursor : CanvasCursor α)
    (hostState : σ) : (Scene α × CanvasCursor α) × σ :=
  match readDocument context.registry text with
  | .ok document =>
      let (scene, hostState) := ofDocument context document hostState
      (scene.placeRoot context.config.render cursor, hostState)
  | .error error =>
      ((fallback context.config.render error).placeRoot context.config.render cursor, hostState)

end Scene

end DesignScene
