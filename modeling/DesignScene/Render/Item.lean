/-
This file renders the items of a layout.
-/
import DesignScene.Document.Ingest
import DesignScene.Render.Instance

namespace DesignScene.Stage

variable {α σ : Type} [Scalar α]

/-- An item that cannot be rendered is reported and replaced by a placeholder. -/
def orPlaceholder (context : RenderContext α σ) (parent : Nat) (path source : String)
    (result : Except RenderError Unit × Stage α σ) : Stage α σ :=
  match result with
  | (.ok _, stage) => stage
  | (.error error, stage) =>
      (stage.warn path error.message).addPlaceholder context.config.render parent source
        error.message

mutual

/-- The children of a container are rendered before its frame is arranged. -/
def renderItem (context : RenderContext α σ) (parent : Nat) (path : String) :
    LayoutItem α → Stage α σ → Stage α σ
  | .container spec children, stage =>
      let frame := stage.graph.size
      let stage := stage.addFrame context (some parent) spec
      let stage := renderItems context frame (itemsPath path) 0 children stage
      stage.arrangeFrame context frame
  | .text spec, stage =>
      orPlaceholder context parent path (LayoutItem.text spec).source
        (stage.renderText context parent spec)
  | .shape spec, stage => stage.renderShape context parent spec
  | .component spec, stage =>
      orPlaceholder context parent path (LayoutItem.component (α := α) spec).source
        (stage.renderComponent context parent path spec)
  | .malformed place reason, stage =>
      orPlaceholder context parent path (LayoutItem.malformed (α := α) place reason).source
        (.error (.structural place reason), stage)

/-- The items of a list, the first of which has this index. -/
def renderItems (context : RenderContext α σ) (parent : Nat) (path : String) (index : Nat) :
    List (LayoutItem α) → Stage α σ → Stage α σ
  | [], stage => stage
  | item :: more, stage =>
      renderItems context parent path (index + 1) more
        (renderItem context parent (elementPath path index) item stage)

end

/-- A root without a width and without auto layout has the default width. -/
def widenRoot (context : RenderContext α σ) (spec : ContainerSpec α) (root : Nat)
    (stage : Stage α σ) : Stage α σ :=
  if spec.width.isNone && spec.layoutMode == .none then
    stage.updateNode root fun node =>
      { node with width := context.config.render.defaultRootWidth, fixedWidth := true }
  else stage

/-- The root is the first node of the scene. -/
def renderDocument (context : RenderContext α σ) (document : LayoutDocument α)
    (stage : Stage α σ) : Stage α σ :=
  let root := stage.graph.size
  let stage := stage.addFrame context none document.root
  let stage := stage.widenRoot context document.root root
  let stage := renderItems context root "items" 0 document.items stage
  let stage := stage.arrangeFrame context root
  stage.fitRoot context document.root root

end DesignScene.Stage
