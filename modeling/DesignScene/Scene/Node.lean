/-
This file holds the nodes of a scene.
-/
import DesignScene.Color
import DesignScene.Config
import DesignScene.Layout.Directive

namespace DesignScene

inductive Paint where
  | solid (color : Rgb) (opacity : Float)
  | image (reference : String)

def Paint.ofColor (color : Rgb) : Paint := .solid color 1.0

/-- Which sizes of a text follow from its characters. -/
inductive TextAutoResize where
  | widthAndHeight
  | height
  | none
deriving DecidableEq

def TextAutoResize.name : TextAutoResize → String
  | widthAndHeight => "WIDTH_AND_HEIGHT"
  | height => "HEIGHT"
  | none => "NONE"

structure FrameProps (α : Type) where
  layoutMode : LayoutMode
  padding : Padding α
  itemSpacing : ItemSpacing α
  layoutWrap : Bool
  primaryAxisAlignItems : Option String
  counterAxisAlignItems : Option String
  primarySizing : SizingMode
  counterSizing : SizingMode
  cornerRadius : Option α
  fills : List Paint

/-- A frame without auto layout. -/
def FrameProps.plain {α : Type} [Scalar α] : FrameProps α where
  layoutMode := .none
  padding := Padding.zero
  itemSpacing := ItemSpacing.zero
  layoutWrap := false
  primaryAxisAlignItems := none
  counterAxisAlignItems := none
  primarySizing := .fixed
  counterSizing := .fixed
  cornerRadius := none
  fills := []

structure TextProps (α : Type) where
  characters : String
  fonts : List FontName
  fontSize : α
  textAlign : TextAlign
  autoResize : TextAutoResize
  fills : List Paint
  fillStyleId : Option String
  textStyleId : Option String

structure ShapeProps (α : Type) where
  fills : List Paint := []
  cornerRadius : Option α := none

structure InstanceProps where
  mainComponentId : String
  variantValues : Dict String

structure PlaceholderProps where
  reason : String
  /-- The component or the type that the placeholder stands in for. -/
  source : String

inductive NodeKind (α : Type) where
  | frame (props : FrameProps α)
  | text (props : TextProps α)
  | rectangle (props : ShapeProps α)
  | ellipse (props : ShapeProps α)
  | image (props : ShapeProps α)
  | instance (props : InstanceProps)
  | vector
  | placeholder (props : PlaceholderProps)

structure SceneNode (α : Type) where
  /-- The place of the node in its graph. -/
  id : Nat
  /-- The identifier by which the design host knows the node. -/
  hostId : String
  name : String
  parent : Option Nat
  children : List Nat
  visible : Bool
  x : α
  y : α
  width : α
  height : α
  /-- The width was authored, and nothing else decides it. -/
  fixedWidth : Bool
  layout : ChildLayout α
  constraints : SizeConstraints α
  mediaRef : Option String
  kind : NodeKind α

namespace SceneNode

variable {α : Type}

def frame? (node : SceneNode α) : Option (FrameProps α) :=
  match node.kind with
  | .frame props => some props
  | _ => none

def text? (node : SceneNode α) : Option (TextProps α) :=
  match node.kind with
  | .text props => some props
  | _ => none

def instance? (node : SceneNode α) : Option InstanceProps :=
  match node.kind with
  | .instance props => some props
  | _ => none

def isText (node : SceneNode α) : Bool := node.text?.isSome

def isInstance (node : SceneNode α) : Bool := node.instance?.isSome

def isPlaceholder (node : SceneNode α) : Bool :=
  match node.kind with
  | .placeholder _ => true
  | _ => false

end SceneNode

end DesignScene
