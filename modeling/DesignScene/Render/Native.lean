/-
This file renders texts and shapes.
-/
import DesignScene.Document.Node
import DesignScene.Render.Stage
import DesignScene.Scene.Width

namespace DesignScene.Stage

variable {α σ : Type}

/-- Every font is asked for, and the first failure counts. -/
def loadAll (host : Host α σ) : List FontName → Stage α σ → Except RenderError Unit × Stage α σ
  | [], stage => (.ok (), stage)
  | font :: more, stage =>
      let (first, stage) := stage.ask (host.loadFont font)
      let (others, stage) := loadAll host more stage
      (first.bind fun _ => others, stage)

/-- The members of a list without repetitions, each one where it first stands. -/
def distinct {β : Type} [DecidableEq β] (members : List β) : List β :=
  members.foldl (fun found member => if member ∈ found then found else found ++ [member]) []

/-- The fonts of a text, or the default font if one of them does not load. -/
def loadFonts (context : RenderContext α σ) (fonts : List FontName) (stage : Stage α σ) :
    Except RenderError (List FontName) × Stage α σ :=
  match loadAll context.host (distinct fonts) stage with
  | (.ok _, stage) => (.ok fonts, stage)
  | (.error _, stage) =>
      let fallback := context.config.render.defaultFont
      let (result, stage) := stage.ask (context.host.loadFont fallback)
      (result.map fun _ => [fallback], stage)

/-- The style of the host, else the size of the scanned style; an unknown style is reported. -/
def textStyleFor (context : RenderContext α σ) (path : String) (fontSize : α)
    (styleName : Option String) (stage : Stage α σ) : Option String × α × Stage α σ :=
  match styleName with
  | none => (none, fontSize, stage)
  | some name =>
      match stage.ask (context.host.textStyle name) with
      | (some style, stage) => (some style.id, fontSize, stage)
      | (none, stage) =>
          match context.styles.findTextStyle name with
          | some style => (none, style.fontSize.getD fontSize, stage)
          | none => (none, fontSize, stage.warn path ("Unknown text style '" ++ name ++ "'"))

/-- The color that is authored beside a style, and black if there is none. -/
def plainTextColor (context : RenderContext α σ) (path : String) (color : Option ColorRef)
    (stage : Stage α σ) : List Paint × Option String × Stage α σ :=
  match color with
  | none => ([.ofColor Rgb.black], none, stage)
  | some (.rgb color) => ([.ofColor color], none, stage)
  | some (.named name) =>
      match context.styles.resolveColor name with
      | some (color, _) => ([.ofColor color], none, stage)
      | none =>
          match stage.ask (context.host.paintStyle name) with
          | (some style, stage) => ([], some style.id, stage)
          | (none, stage) =>
              ([.ofColor Rgb.black], none,
                stage.warn path ("Unknown color '" ++ name ++ "', using black"))

/-- A style of the host counts before a scanned one, and both before the authored color. -/
def textColorFor (context : RenderContext α σ) (path : String) (spec : TextSpec α)
    (stage : Stage α σ) : List Paint × Option String × Stage α σ :=
  match spec.colorStyleRef with
  | none => stage.plainTextColor context path spec.color
  | some name =>
      match stage.ask (context.host.paintStyle name) with
      | (some style, stage) => ([], some style.id, stage)
      | (none, stage) =>
          match context.styles.resolveColor name with
          | some (color, _) => ([.ofColor color], none, stage)
          | none =>
              (stage.warn path ("Unknown color style '" ++ name ++ "'")).plainTextColor context path
                spec.color

variable [Scalar α]

/-- How a text resizes, and the width at which it wraps. -/
def wrapping (threshold : α) (fills : Bool) (available : Option (α × α)) :
    TextAutoResize × Option α :=
  if fills then (.height, available.map Prod.snd)
  else
    match available with
    | some (ancestor, width) =>
        if ancestor ≤ threshold then (.height, some width) else (.widthAndHeight, none)
    | none => (.widthAndHeight, none)

/-- The beginning of a text, which names it. -/
def textLabel (content : String) : String := String.ofList (content.toList.take 30)

/-- A text whose fonts do not load is not rendered. -/
def renderText (context : RenderContext α σ) (parent : Nat) (spec : TextSpec α)
    (stage : Stage α σ) : Except RenderError Unit × Stage α σ :=
  let config := context.config.render
  match stage.loadFonts context [if spec.bold then config.boldFont else config.defaultFont] with
  | (.error error, stage) => (.error error, stage)
  | (.ok fonts, stage) =>
      let path := textLabel spec.content
      let (textStyleId, fontSize, stage) :=
        stage.textStyleFor context path (spec.fontSize.getD config.defaultFontSize)
          spec.textStyleRef
      let (fills, fillStyleId, stage) := stage.textColorFor context path spec
      let mode := stage.layoutModeOf (some parent)
      let layout := spec.directive.forParent mode
      let (autoResize, wrapWidth) :=
        wrapping config.textWrapThreshold (layout.fillsWidth && mode.isAutoLayout)
          (stage.graph.effectiveWidth parent)
      let (width, height) := context.host.measureText spec.content fontSize wrapWidth
      let id := stage.graph.size
      let stage :=
        stage.addNode (some parent) none (if spec.content.isEmpty then "Text" else path)
          (.text
            { characters := spec.content
              fonts := fonts
              fontSize := fontSize
              textAlign := spec.alignment
              autoResize := autoResize
              fills := fills
              fillStyleId := fillStyleId
              textStyleId := textStyleId })
          width height
      (.ok (),
        stage.updateNode id fun node =>
          { node with layout := layout, constraints := spec.directive.constraints })

/-- The name of a shape and the length of its sides. -/
def shapeDefaults : Shape → String × Nat
  | .rectangle => ("Rectangle", 100)
  | .ellipse => ("Ellipse", 50)

/-- A shape without a fill is light gray. -/
def shapeFills (context : RenderContext α σ) (name : String) (spec : ShapeSpec α)
    (stage : Stage α σ) : List Paint × Stage α σ :=
  match spec.imageFill, spec.fill with
  | some image, _ => ([.image image], stage)
  | none, some color => stage.paintFor context.styles name color
  | none, none => ([.ofColor ⟨0.85, 0.85, 0.85⟩], stage)

def shapeKind (shape : Shape) (props : ShapeProps α) : NodeKind α :=
  match shape with
  | .rectangle => .rectangle props
  | .ellipse => .ellipse props

def renderShape (context : RenderContext α σ) (parent : Nat) (spec : ShapeSpec α)
    (stage : Stage α σ) : Stage α σ :=
  let (name, side) := shapeDefaults spec.shape
  let (fills, stage) := stage.shapeFills context name spec
  let layout := spec.directive.forParent (stage.layoutModeOf (some parent))
  let id := stage.graph.size
  let stage :=
    stage.addNode (some parent) none name (shapeKind spec.shape ⟨fills, spec.cornerRadius⟩)
      (spec.width.getD (Scalar.ofNat side)) (spec.height.getD (Scalar.ofNat side))
  stage.updateNode id fun node =>
    { node with
      fixedWidth := spec.width.isSome && !layout.fillsWidth
      layout := layout
      constraints := spec.directive.constraints }

end DesignScene.Stage
