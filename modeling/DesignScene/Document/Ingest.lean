/-
This file reads layout documents from JSON values.
-/
import DesignScene.Document.Node
import DesignScene.Json.Parser

namespace DesignScene

/-- Why a value is not a layout document. -/
inductive DocumentError where
  | notObject
  | noContent
  | itemsNotArray
deriving DecidableEq

namespace DocumentError

/-- The place where the fault is. -/
def path : DocumentError → String
  | notObject => "$"
  | noContent => "$"
  | itemsNotArray => "items"

def reason : DocumentError → String
  | notObject => "Root must be a JSON object"
  | noContent => "Root must contain a layoutContainer or an items array"
  | itemsNotArray => "items must be an array"

end DocumentError

section Fields

variable {α : Type} [Scalar α]

def readItemSpacing : Option Json → ItemSpacing α
  | some (.string text) =>
      if Text.equalIgnoringAsciiCase text "AUTO" then .auto
      else .fixed ((readSize (.string text)).getD (Scalar.ofNat 0))
  | some json => .fixed ((readSize json).getD (Scalar.ofNat 0))
  | none => ItemSpacing.zero

def readWrap : Option Json → Bool
  | some (.bool wraps) => wraps
  | some (.string text) => Text.equalIgnoringAsciiCase text "WRAP"
  | _ => false

def readPadding (fields : Dict Json) : Padding α :=
  let side (name : String) : α := (sizeField [name] fields).getD (Scalar.ofNat 0)
  ⟨side "paddingTop", side "paddingRight", side "paddingBottom", side "paddingLeft"⟩

/-- The first of the named fields that is present. -/
def presentField (names : List String) (fields : Dict Json) : Option Json :=
  names.findSome? fun name => fields.get? name

def colorField (names : List String) (fields : Dict Json) : Option ColorRef :=
  (presentField names fields).bind ColorRef.ofJson

def ContainerSpec.ofFields (fields : Dict Json) : ContainerSpec α where
  name := textField ["name"] fields
  layoutMode := ((textField ["layoutMode"] fields).bind LayoutMode.ofText).getD .none
  width := sizeField ["width"] fields
  height := sizeField ["height"] fields
  padding := readPadding fields
  itemSpacing := readItemSpacing (fields.get? "itemSpacing")
  layoutWrap := readWrap (fields.get? "layoutWrap")
  primaryAxisAlignItems := textField ["primaryAxisAlignItems"] fields
  counterAxisAlignItems := textField ["counterAxisAlignItems"] fields
  primaryAxisSizingMode := (textField ["primaryAxisSizingMode"] fields).bind SizingMode.ofText
  counterAxisSizingMode := (textField ["counterAxisSizingMode"] fields).bind SizingMode.ofText
  fill := colorField ["fill", "backgroundColor"] fields
  cornerRadius := sizeField ["cornerRadius"] fields
  directive := LayoutDirective.ofFields fields

/-- A document without a container of its own is a column. -/
def ContainerSpec.standard : ContainerSpec α where
  name := some "Generated Layout"
  layoutMode := .vertical
  width := none
  height := none
  padding := Padding.zero
  itemSpacing := ItemSpacing.zero
  layoutWrap := false
  primaryAxisAlignItems := none
  counterAxisAlignItems := none
  primaryAxisSizingMode := none
  counterAxisSizingMode := none
  fill := none
  cornerRadius := none
  directive := {}

/-- The least font weight that counts as bold. -/
def boldWeight : Nat := 600

def isBoldWord (text : String) : Bool :=
  let word := Text.lower text
  Text.contains word "bold" ||
    (Decimal.readWhole word).elim false fun weight => boldWeight ≤ weight && weight < UInt32.size

def readBold : Option Json → Bool
  | some (.string text) => isBoldWord text
  | some (.number number) => Float.ofNat boldWeight ≤ number.toFloat
  | _ => false

def readContent : Option Json → String
  | some (.string text) => text
  | some (.number number) => number.toText
  | _ => "Text"

def TextSpec.ofFields (fields : Dict Json) : TextSpec α where
  content := readContent (presentField ["content", "text", "characters"] fields)
  fontSize := sizeField ["fontSize", "size"] fields
  bold := readBold (presentField ["fontWeight", "weight"] fields)
  alignment :=
    (textField ["alignment", "textAlign", "textAlignHorizontal"] fields).elim .left TextAlign.ofText
  color := colorField ["color"] fields
  colorStyleRef := textField ["colorStyleRef", "colorStyleName"] fields
  textStyleRef := textField ["textStyleRef", "textStyle", "textStyleName"] fields
  directive := LayoutDirective.ofFields fields

def ShapeSpec.ofFields (shape : Shape) (fields : Dict Json) : ShapeSpec α where
  shape := shape
  width := sizeField ["width"] fields
  height := sizeField ["height"] fields
  fill := colorField ["fill", "color"] fields
  imageFill := textField ["imageFill", "imageHash", "imageUrl"] fields
  cornerRadius := sizeField ["cornerRadius"] fields
  directive := LayoutDirective.ofFields fields

def Shape.containerName : Shape → String
  | rectangle => "Rectangle Container"
  | ellipse => "Ellipse Container"

/-- A shape that has children becomes a container, by default a column; an ellipse is round. -/
def ShapeSpec.toContainer (spec : ShapeSpec α) (fields : Dict Json) : ContainerSpec α :=
  let container : ContainerSpec α := ContainerSpec.ofFields fields
  { container with
    name := container.name.or (some spec.shape.containerName)
    layoutMode := if container.layoutMode == .none then .vertical else container.layoutMode
    width := spec.width
    height := spec.height
    fill := spec.fill
    cornerRadius :=
      match spec.shape with
      | .rectangle => spec.cornerRadius
      | .ellipse => spec.cornerRadius.or (spec.width.map fun width => width / Scalar.ofNat 2) }

/-- The fields of an item, over which its properties are laid. -/
def mergedFields (fields : Dict Json) : Dict Json :=
  match fields.get? "properties" with
  | some (.object properties) => fields.overlay properties
  | _ => fields

/-- The settings of a container item, which may stand in a container of their own. -/
def ContainerSpec.ofItem (fields : Dict Json) : ContainerSpec α :=
  let container : ContainerSpec α :=
    match fields.get? "layoutContainer" with
    | some (.object inner) =>
        let container : ContainerSpec α := ContainerSpec.ofFields inner
        { container with directive := container.directive.orElse (LayoutDirective.ofFields fields) }
    | _ => ContainerSpec.ofFields fields
  { container with name := container.name.or (textField ["name"] fields) }

end Fields

/-- The properties of an item with its variants and its layout keys. -/
def readProperties (fields : Dict Json) : PropertyBag :=
  let authored : PropertyBag := ((fields.get? "properties").bind Json.asObject?).getD []
  let withVariants :=
    match fields.get? "variants" with
    | some (.object variants) => PropertyBag.mergeVariants variants authored
    | _ => authored
  LayoutKey.all.foldl
    (fun bag key =>
      match fields.get? key.name with
      | some value => PropertyBag.insertIfAbsent key.name value bag
      | none => bag)
    withVariants

/-- The usable entries of an object field. -/
def entriesOf {β : Type} (read : Json → Option β) (name : String) (fields : Dict Json) :
    List (String × β) :=
  (((fields.get? name).bind Json.asObject?).getD []).filterMap fun entry =>
    (read entry.2).map fun value => (entry.1, value)

/-- A component is named by the first identifier field that is present. -/
def readComponentId (fields : Dict Json) : Option String :=
  ((presentField ["componentNodeId", "componentId"] fields).bind Json.asString?).filter fun id =>
    !Text.isBlankText id

def ComponentSpec.ofFields (typeName : String) (fields : Dict Json) : ComponentSpec where
  typeName := typeName
  componentId := readComponentId fields
  name := textField ["name"] fields
  properties := readProperties fields
  iconSwaps := entriesOf Json.asString? "iconSwaps" fields
  visibilityOverrides := entriesOf Json.asBool? "visibilityOverrides" fields

/-- The path of the element with this index. -/
def elementPath (path : String) (index : Nat) : String := path ++ "[" ++ toString index ++ "]"

def itemsPath (path : String) : String := path ++ ".items"

/-- The field `children` counts only where there is no field `items`. -/
def chooseItems {β : Type} (items children : Option (Option (List β))) : Option (List β) :=
  match items with
  | some found => found
  | none => children.join

namespace LayoutItem

variable {α : Type} [Scalar α]

def shapeOfType (itemType : String) : Shape :=
  if itemType == "native-circle" then .ellipse else .rectangle

/-- A shape with children is a container. -/
def ofShape (shape : Shape) (fields : Dict Json) : List (LayoutItem α) → LayoutItem α
  | [] => .shape (ShapeSpec.ofFields shape fields)
  | child :: more => container ((ShapeSpec.ofFields shape fields).toContainer fields) (child :: more)

mutual

/-- The type of an item decides how the rest of it is read. -/
def ofJson (path : String) : Json → LayoutItem α
  | .object fields =>
      match (Dict.get? "type" fields).bind Json.asString? with
      | none => malformed path "Item is missing a type"
      | some itemType =>
          if itemType == "layoutContainer" || itemType == "frame" then
            let own :=
              chooseItems (listField "items" (itemsPath path) fields)
                (listField "children" (itemsPath path) fields)
            let children := own.or (nestedItems (itemsPath path) fields)
            container (ContainerSpec.ofItem fields) (children.getD [])
          else if itemType == "native-text" || itemType == "text" then
            text (TextSpec.ofFields (mergedFields fields))
          else if itemType == "native-rectangle" || itemType == "native-circle" then
            let own :=
              chooseItems (listField "items" (itemsPath path) fields)
                (listField "children" (itemsPath path) fields)
            ofShape (shapeOfType itemType) (mergedFields fields) (own.getD [])
          else component (ComponentSpec.ofFields itemType fields)
  | _ => malformed path "Item must be an object"

/-- The elements of an array, the first of which has this index. -/
def ofElements (path : String) (index : Nat) : List Json → List (LayoutItem α)
  | [] => []
  | element :: more => ofJson (elementPath path index) element :: ofElements path (index + 1) more

/-- The items of a field if it is present, or nothing in place of them if it is no array. -/
def listField (name path : String) : List (String × Json) → Option (Option (List (LayoutItem α)))
  | [] => none
  | (key, .array elements) :: more =>
      if key = name then some (some (ofElements path 0 elements)) else listField name path more
  | (key, _) :: more => if key = name then some none else listField name path more

/-- The children of a container that stands in a field of its own. -/
def nestedItems (path : String) : List (String × Json) → Option (List (LayoutItem α))
  | [] => none
  | (key, .object inner) :: more =>
      if key = "layoutContainer" then
        chooseItems (listField "items" path inner) (listField "children" path inner)
      else nestedItems path more
  | (key, _) :: more => if key = "layoutContainer" then none else nestedItems path more

end

end LayoutItem

namespace LayoutDocument

variable {α : Type} [Scalar α]

/-- The items stand beside the container or, failing that, in it. -/
def ofJson (json : Json) : Except DocumentError (LayoutDocument α) :=
  match json with
  | .object fields =>
      let container := (Dict.get? "layoutContainer" fields).bind Json.asObject?
      let items := Dict.get? "items" fields
      if container.isNone && items.isNone then .error .noContent
      else
        let root := container.elim ContainerSpec.standard ContainerSpec.ofFields
        match items.or (container.bind (Dict.get? "items")) with
        | some (.array elements) => .ok ⟨root, LayoutItem.ofElements "items" 0 elements⟩
        | some _ => .error .itemsNotArray
        | none => .ok ⟨root, []⟩
  | _ => .error .notObject

end LayoutDocument

end DesignScene
