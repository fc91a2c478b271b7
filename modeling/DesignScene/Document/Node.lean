/-
This file holds a layout document after it has been read.
-/
import DesignScene.Color
import DesignScene.Layout.Directive
import DesignScene.Property.Bag

namespace DesignScene

inductive Shape where
  | rectangle
  | ellipse
deriving DecidableEq

/-- The settings of a container, apart from its children. -/
structure ContainerSpec (α : Type) where
  name : Option String
  layoutMode : LayoutMode
  width : Option α
  height : Option α
  padding : Padding α
  itemSpacing : ItemSpacing α
  layoutWrap : Bool
  primaryAxisAlignItems : Option String
  counterAxisAlignItems : Option String
  primaryAxisSizingMode : Option SizingMode
  counterAxisSizingMode : Option SizingMode
  fill : Option ColorRef
  cornerRadius : Option α
  directive : LayoutDirective α

structure TextSpec (α : Type) where
  content : String
  fontSize : Option α
  bold : Bool
  alignment : TextAlign
  color : Option ColorRef
  colorStyleRef : Option String
  textStyleRef : Option String
  directive : LayoutDirective α

structure ShapeSpec (α : Type) where
  shape : Shape
  width : Option α
  height : Option α
  fill : Option ColorRef
  imageFill : Option String
  cornerRadius : Option α
  directive : LayoutDirective α

structure ComponentSpec where
  /-- The type as it is authored. -/
  typeName : String
  componentId : Option String
  name : Option String
  properties : PropertyBag
  /-- The icon for each slot key. -/
  iconSwaps : List (String × String)
  /-- The visibility for each node identifier. -/
  visibilityOverrides : List (String × Bool)

/-- One item of a layout. -/
inductive LayoutItem (α : Type) where
  | container (spec : ContainerSpec α) (children : List (LayoutItem α))
  | text (spec : TextSpec α)
  | shape (spec : ShapeSpec α)
  | component (spec : ComponentSpec)
  /-- What stands at this path is not an item. -/
  | malformed (path reason : String)

namespace LayoutItem

def kindName {α : Type} : LayoutItem α → String
  | container .. => "container"
  | text .. => "native-text"
  | shape .. => "native-primitive"
  | component .. => "component"
  | malformed .. => "malformed"

/-- What a placeholder for the item stands in for. -/
def source {α : Type} : LayoutItem α → String
  | component spec => spec.componentId.getD spec.typeName
  | item => item.kindName

end LayoutItem

structure LayoutDocument (α : Type) where
  root : ContainerSpec α
  items : List (LayoutItem α)

/-- The types of items that name no component. -/
def nativeTypes : List String :=
  ["native-text", "text", "native-rectangle", "native-circle", "layoutContainer", "frame"]

def isComponentType (itemType : String) : Bool := !nativeTypes.contains itemType

end DesignScene
