/-
This file places the children of a frame and sizes the frame to them.
-/
import DesignScene.Scene.Graph

namespace DesignScene

open Scalar

namespace SceneNode

variable {α : Type}

/-- The size along the direction in which children follow each other. -/
def mainSize (vertical : Bool) (node : SceneNode α) : α :=
  if vertical then node.height else node.width

def crossSize (vertical : Bool) (node : SceneNode α) : α :=
  if vertical then node.width else node.height

variable [Scalar α]

def resizeWidth (width : α) (node : SceneNode α) : SceneNode α :=
  { node with width := node.constraints.clampWidth width }

def resizeHeight (height : α) (node : SceneNode α) : SceneNode α :=
  { node with height := node.constraints.clampHeight height }

def resizeMain (vertical : Bool) (size : α) (node : SceneNode α) : SceneNode α :=
  if vertical then node.resizeHeight size else node.resizeWidth size

def resizeCross (vertical : Bool) (size : α) (node : SceneNode α) : SceneNode α :=
  if vertical then node.resizeWidth size else node.resizeHeight size

def moveTo (vertical : Bool) (main cross : α) (node : SceneNode α) : SceneNode α :=
  if vertical then { node with x := cross, y := main } else { node with x := main, y := cross }

end SceneNode

/-- The right and the bottom edge of what the nodes cover together. -/
def contentExtent {α : Type} [Scalar α] (nodes : List (SceneNode α)) : α × α :=
  nodes.foldl
    (fun extent node =>
      (larger extent.1 (node.x + node.width), larger extent.2 (node.y + node.height)))
    (ofNat 0, ofNat 0)

namespace Arrange

variable {α : Type} [Scalar α]

/-- Without auto layout a frame only grows around its children. -/
def fitAround (children : List (SceneNode α)) (frame : SceneNode α) : SceneNode α :=
  let (right, bottom) := contentExtent children
  let frame :=
    if !frame.fixedWidth && ofNat 0 < right then frame.resizeWidth right else frame
  if frame.height ≤ ofNat 0 then frame.resizeHeight bottom else frame

def isVertical (props : FrameProps α) : Bool := props.layoutMode == .vertical

def mainPadding (props : FrameProps α) : α :=
  if isVertical props then props.padding.vertical else props.padding.horizontal

def crossPadding (props : FrameProps α) : α :=
  if isVertical props then props.padding.horizontal else props.padding.vertical

def mainStart (props : FrameProps α) : α :=
  if isVertical props then props.padding.top else props.padding.left

def crossStart (props : FrameProps α) : α :=
  if isVertical props then props.padding.left else props.padding.top

def innerMain (props : FrameProps α) (frame : SceneNode α) : α :=
  atLeastZero (frame.mainSize (isVertical props) - mainPadding props)

def innerCross (props : FrameProps α) (frame : SceneNode α) : α :=
  atLeastZero (frame.crossSize (isVertical props) - crossPadding props)

/-- The number of gaps between the members of a list. -/
def gapCount {β : Type} (members : List β) : α := ofNat (members.length - 1)

/-- Where the cross size is fixed, stretching children take all of it. -/
def stretch (props : FrameProps α) (frame : SceneNode α) (children : List (SceneNode α)) :
    List (SceneNode α) :=
  if props.counterSizing == .fixed then
    children.map fun child =>
      if child.layout.layoutAlign == .stretch then
        child.resizeCross (isVertical props) (innerCross props frame)
      else child
  else children

def totalGrow (children : List (SceneNode α)) : α :=
  sum (children.map fun child => child.layout.layoutGrow)

/-- The main sizes of the children that do not grow. -/
def usedMain (props : FrameProps α) (children : List (SceneNode α)) : α :=
  sum
    ((children.filter fun child => child.layout.layoutGrow ≤ ofNat 0).map
      (SceneNode.mainSize (isVertical props)))

def freeMain (props : FrameProps α) (frame : SceneNode α) (children : List (SceneNode α)) : α :=
  atLeastZero
    (frame.mainSize (isVertical props) - mainPadding props - usedMain props children -
      props.itemSpacing.gap * gapCount children)

/-- Where the main size is fixed, growing children share what the others leave. -/
def grow (props : FrameProps α) (frame : SceneNode α) (children : List (SceneNode α)) :
    List (SceneNode α) :=
  if props.primarySizing == .fixed && ofNat 0 < totalGrow children then
    children.map fun child =>
      if ofNat 0 < child.layout.layoutGrow then
        child.resizeMain (isVertical props)
          (freeMain props frame children * child.layout.layoutGrow / totalGrow children)
      else child
  else children

/-- Children that follow each other, with the space that they take. -/
structure Line (α : Type) where
  children : List (SceneNode α)
  main : α
  cross : α

def measureLine (vertical : Bool) (spacing : α) (children : List (SceneNode α)) : Line α where
  children := children
  main := sum (children.map (SceneNode.mainSize vertical)) + spacing * gapCount children
  cross := greatest (children.map (SceneNode.crossSize vertical))

/-- The child does not fit behind the children that take this space. -/
def overflows (limit : Option α) (used size : α) : Bool :=
  limit.elim false fun limit => limit < used + size

/-- The children of `current` are on the line that is being filled and take `used` space. -/
def breakLinesAfter (vertical : Bool) (spacing : α) (limit : Option α)
    (current : List (SceneNode α)) (used : α) : List (SceneNode α) → List (Line α)
  | [] => if current.isEmpty then [] else [measureLine vertical spacing current]
  | child :: more =>
      let size := child.mainSize vertical
      if !current.isEmpty && overflows limit used size then
        measureLine vertical spacing current ::
          breakLinesAfter vertical spacing limit [child] (ofNat 0 + (size + spacing)) more
      else breakLinesAfter vertical spacing limit (current ++ [child]) (used + (size + spacing)) more

def breakLines (vertical : Bool) (spacing : α) (limit : Option α)
    (children : List (SceneNode α)) : List (Line α) :=
  breakLinesAfter vertical spacing limit [] (ofNat 0) children

/-- Only rows of a fixed width wrap. -/
def wrapLimit (props : FrameProps α) (frame : SceneNode α) : Option α :=
  if !isVertical props && props.layoutWrap && props.primarySizing == .fixed then
    some (frame.mainSize (isVertical props) - mainPadding props)
  else none

def hugMain (props : FrameProps α) (lines : List (Line α)) : α :=
  greatest (lines.map (·.main)) + mainPadding props

def hugCross (props : FrameProps α) (lines : List (Line α)) : α :=
  sum (lines.map (·.cross)) + props.itemSpacing.gap * gapCount lines + crossPadding props

/-- A size that is not fixed hugs the lines. -/
def hug (props : FrameProps α) (lines : List (Line α)) (frame : SceneNode α) : SceneNode α :=
  let vertical := isVertical props
  let frame :=
    if props.primarySizing == .fixed then frame
    else frame.resizeMain vertical (hugMain props lines)
  if props.counterSizing == .fixed then frame
  else frame.resizeCross vertical (hugCross props lines)

def primaryAlign (props : FrameProps α) : String := props.primaryAxisAlignItems.getD "MIN"

def crossAlign (props : FrameProps α) : String := props.counterAxisAlignItems.getD "MIN"

def spreads (props : FrameProps α) : Bool :=
  (match props.itemSpacing with
    | .auto => true
    | .fixed _ => false) || primaryAlign props == "SPACE_BETWEEN"

/-- Where the first child of a line begins, and the gap between its children. -/
def lineStart (props : FrameProps α) (free : α) (line : Line α) : α × α :=
  let gaps : α := gapCount line.children
  let spacing := props.itemSpacing.gap
  if spreads props && ofNat 0 < gaps then (ofNat 0, spacing + free / gaps)
  else
    match primaryAlign props with
    | "CENTER" => (free / ofNat 2, spacing)
    | "MAX" => (free, spacing)
    | _ => (ofNat 0, spacing)

def crossOffset (align : String) (extent size : α) : α :=
  match align with
  | "CENTER" => atLeastZero ((extent - size) / ofNat 2)
  | "MAX" => atLeastZero (extent - size)
  | _ => ofNat 0

/-- The children follow each other from `main` on, each at its place across the line. -/
def placeChildren (vertical : Bool) (align : String) (cross extent gap main : α) :
    List (SceneNode α) → List (SceneNode α)
  | [] => []
  | child :: more =>
      let offset := crossOffset align extent (child.crossSize vertical)
      child.moveTo vertical main (cross + offset) ::
        placeChildren vertical align cross extent gap
          (main + (child.mainSize vertical + gap)) more

/-- A line of its own is as wide as the frame; wrapped lines are as wide as they need. -/
def placeLines (props : FrameProps α) (frame : SceneNode α) (single : Bool) (cross : α) :
    List (Line α) → List (SceneNode α)
  | [] => []
  | line :: more =>
      let free := atLeastZero (innerMain props frame - line.main)
      let (start, gap) := lineStart props free line
      let extent := if single then innerCross props frame else line.cross
      placeChildren (isVertical props) (crossAlign props) cross extent gap (mainStart props + start)
          line.children ++
        placeLines props frame single (cross + (line.cross + props.itemSpacing.gap)) more

/-- The frame and its visible children after auto layout. -/
def auto (props : FrameProps α) (frame : SceneNode α) (children : List (SceneNode α)) :
    SceneNode α × List (SceneNode α) :=
  let children := grow props frame (stretch props frame children)
  let lines :=
    breakLines (isVertical props) props.itemSpacing.gap (wrapLimit props frame) children
  let frame := hug props lines frame
  (frame, placeLines props frame (lines.length == 1) (crossStart props) lines)

end Arrange

namespace SceneGraph

variable {α : Type} [Scalar α]

def visibleChildren (graph : SceneGraph α) (id : Nat) : List (SceneNode α) :=
  (graph.childNodes id).filter (·.visible)

/-- Only frames arrange their children. -/
def arrange (graph : SceneGraph α) (id : Nat) : SceneGraph α :=
  match graph.node? id with
  | none => graph
  | some frame =>
      match frame.frame? with
      | none => graph
      | some props =>
          let children := graph.visibleChildren id
          if props.layoutMode.isAutoLayout then
            let (frame, children) := Arrange.auto props frame children
            (graph.put frame).putAll children
          else graph.put (Arrange.fitAround children frame)

end SceneGraph

end DesignScene
