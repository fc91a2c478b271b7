/-
This file holds components as the design host knows them.
-/
import DesignScene.Component.Schema
import DesignScene.Config
import DesignScene.Property.ArrayHint
import DesignScene.Text.Key

namespace DesignScene

inductive BlueprintKind (α : Type) where
  | frame
  /-- Several fonts stand for a text in which they are mixed. -/
  | text (characters : String) (fonts : List FontName) (fontSize : α) (missingFont : Bool)
  | instance (mainComponentId : String)
  | vector
  | image

inductive BlueprintNode (α : Type) where
  | node (id name : String) (visible : Bool) (width height : α) (kind : BlueprintKind α)
      (children : List (BlueprintNode α))

namespace BlueprintNode

variable {α : Type}

def id : BlueprintNode α → String
  | node id .. => id

def name : BlueprintNode α → String
  | node _ name .. => name

def kind : BlueprintNode α → BlueprintKind α
  | node _ _ _ _ _ kind _ => kind

mutual

/-- A node and all nodes below it, each one before the nodes below it. -/
def walk : BlueprintNode α → List (BlueprintNode α)
  | node id name visible width height kind children =>
      node id name visible width height kind children :: walkAll children

def walkAll : List (BlueprintNode α) → List (BlueprintNode α)
  | [] => []
  | child :: more => walk child ++ walkAll more

end

end BlueprintNode

/-- The default variant of a component. -/
structure Blueprint (α : Type) where
  componentId : String
  name : String
  width : α
  height : α
  /-- The values of each dimension of the whole component set. -/
  variantOptions : Dict (List String) := []
  defaultVariant : Dict String := []
  children : List (BlueprintNode α) := []

def Blueprint.walk {α : Type} (blueprint : Blueprint α) : List (BlueprintNode α) :=
  BlueprintNode.walkAll blueprint.children

section Inference

variable {α : Type}

def classificationAt : Nat → TextClassification
  | 0 => .primary
  | 1 => .secondary
  | _ => .tertiary

def holdsRepeated (hint : ArrayHint) (name : String) : Bool :=
  hint.slotNames.any (Text.contains (Text.normalizeKey name))

def inferredSlot (hint : ArrayHint) (index : Nat) (node : BlueprintNode α) : TextSlot :=
  let repeated := holdsRepeated hint node.name
  { name := node.name
    nodeId := node.id
    classification := classificationAt index
    maxItems := if repeated then some hint.maxItems else none
    dataType := if repeated then .array else .scalar }

/-- Of the nodes that hold repeated values under one name only the first one has a slot. -/
def inferTextSlots (hint : ArrayHint) (seen : List String) (index : Nat) :
    List (BlueprintNode α) → List TextSlot
  | [] => []
  | node :: more =>
      match node.kind with
      | .text .. =>
          let name := Text.normalizeKey node.name
          if holdsRepeated hint node.name then
            if seen.contains name then inferTextSlots hint seen index more
            else
              inferredSlot hint index node :: inferTextSlots hint (name :: seen) (index + 1) more
          else inferredSlot hint index node :: inferTextSlots hint seen (index + 1) more
      | _ => inferTextSlots hint seen index more

def mediaKind? : BlueprintKind α → Option MediaKind
  | .instance _ => some .componentInstance
  | .vector => some .vector
  | .image => some .image
  | _ => none

def inferMediaSlot (node : BlueprintNode α) : Option MediaSlot :=
  (mediaKind? node.kind).map fun kind => ⟨node.name, node.id, kind⟩

/-- The schema of a component that was not scanned, read off its blueprint. -/
def Blueprint.basicSchema (blueprint : Blueprint α) (componentType : String) : ComponentSchema where
  componentId := blueprint.componentId
  name := blueprint.name
  componentType := some componentType
  variantDimensions := blueprint.variantOptions
  textSlots := inferTextSlots (ArrayHint.ofType componentType) [] 0 blueprint.walk
  mediaSlots := blueprint.walk.filterMap inferMediaSlot

end Inference

end DesignScene
