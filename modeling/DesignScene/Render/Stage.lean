/-
This file holds a scene while it is rendered, and the report on it.
-/
import DesignScene.Component.Registry
import DesignScene.Host.Basic
import DesignScene.Property.Resolved
import DesignScene.Scene.Graph
import DesignScene.Styles

namespace DesignScene

structure RenderWarning where
  path : String
  message : String

structure RenderReport where
  warnings : List RenderWarning := []
  propertyWarnings : List PropertyWarning := []
  /-- What the placeholders of the scene stand in for. -/
  placeholders : List String := []
  /-- The components that were rendered without a scanned schema. -/
  basicModeComponents : List String := []
  /-- A message to the user about a layout that could not be rendered at all. -/
  notification : Option String := none

/-- What does not change while layouts are rendered. -/
structure RenderContext (α σ : Type) where
  registry : Registry
  styles : DesignStyles α
  config : Config α
  host : Host α σ

/-- A scene that is being rendered. -/
structure Stage (α σ : Type) where
  graph : SceneGraph α
  report : RenderReport
  /-- The text nodes whose fonts the host document lacks. -/
  missingFonts : List Nat
  hostState : σ

namespace Stage

variable {α σ : Type}

def start (hostState : σ) : Stage α σ := ⟨{}, {}, [], hostState⟩

def warn (path message : String) (stage : Stage α σ) : Stage α σ :=
  { stage with
    report := { stage.report with warnings := stage.report.warnings ++ [⟨path, message⟩] } }

def updateNode (id : Nat) (change : SceneNode α → SceneNode α) (stage : Stage α σ) : Stage α σ :=
  { stage with graph := stage.graph.update id change }

def setVisible (visible : Bool) (id : Nat) (stage : Stage α σ) : Stage α σ :=
  stage.updateNode id fun node => { node with visible := visible }

/-- The answer of the host, and the stage after it was asked. -/
def ask {β : Type} (question : σ → β × σ) (stage : Stage α σ) : β × Stage α σ :=
  let (answer, hostState) := question stage.hostState
  (answer, { stage with hostState := hostState })

variable [Scalar α]

/-- The new node stands at the end of the scene. -/
def addNode (parent : Option Nat) (hostId : Option String) (name : String) (kind : NodeKind α)
    (width height : α) (stage : Stage α σ) : Stage α σ :=
  { stage with graph := stage.graph.add parent hostId name kind width height }

/-- The layout mode of a frame; other nodes and no node at all have none. -/
def layoutModeOf (parent : Option Nat) (stage : Stage α σ) : LayoutMode :=
  ((parent.bind stage.graph.node?).bind SceneNode.frame?).elim .none (·.layoutMode)

def addPlaceholder (config : RenderConfig α) (parent : Nat) (source reason : String)
    (stage : Stage α σ) : Stage α σ :=
  let stage :=
    stage.addNode (some parent) none ("Missing: " ++ source) (.placeholder ⟨reason, source⟩)
      config.placeholderWidth config.placeholderHeight
  { stage with
    report := { stage.report with placeholders := stage.report.placeholders ++ [source] } }

end Stage

/-- The paint for a color, if its name is known; an unknown one is reported. -/
def Stage.paintFor {α σ : Type} (styles : DesignStyles α) (path : String) (color : ColorRef)
    (stage : Stage α σ) : List Paint × Stage α σ :=
  match color with
  | .rgb color => ([.ofColor color], stage)
  | .named name =>
      match styles.resolveColor name with
      | some (color, _) => ([.ofColor color], stage)
      | none => ([], stage.warn path ("Unknown color '" ++ name ++ "'"))

end DesignScene
