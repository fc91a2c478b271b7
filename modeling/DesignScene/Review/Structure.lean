/-
This file checks the shape of a layout.
-/
import DesignScene.Component.Identifier
import DesignScene.Document.Ingest
import DesignScene.Property.Variant
import DesignScene.Review.Issue

namespace DesignScene.Structure

/-- A field that is present and not null. -/
def presentField (name : String) (json : Json) : Option Json :=
  (json.field? name).filter fun value => !value.isNull

def missingRoot : Finding :=
  .error
    ⟨"MISSING_ROOT_STRUCTURE", "JSON must have either layoutContainer or items array", "root",
      .critical, true, none⟩

def invalidLayoutMode : Finding :=
  .error
    ⟨"INVALID_LAYOUT_MODE", "layoutMode must be VERTICAL, HORIZONTAL, or NONE",
      "layoutContainer.layoutMode", .high, true, none⟩

def invalidWidth : Finding :=
  .warning
    (.warning "INVALID_WIDTH" "Width should be a positive number" "layoutContainer.width"
      "Use a positive number like 360 for mobile or 1200 for desktop")

def missingType (path : String) : Finding :=
  .error ⟨"MISSING_TYPE", "Each item must have a type field", path ++ ".type", .critical, false, none⟩

def missingComponentId (path : String) : Finding :=
  .error
    ⟨"MISSING_COMPONENT_ID", "Non-native items must have a componentNodeId",
      path ++ ".componentNodeId", .high, true, none⟩

def invalidComponentId (path : String) : Finding :=
  .warning
    (.warning "INVALID_COMPONENT_ID_FORMAT"
      "componentNodeId should follow format \"number:number\"" (path ++ ".componentNodeId")
      "Use IDs from your design system scan")

def invalidVariants (path : String) : Finding :=
  .warning
    (.warning "INVALID_VARIANTS_TYPE" "variants should be an object" (path ++ ".variants")
      "Use \x7b\"Condition\": \"1-line\", \"Leading\": \"Icon\"\x7d format")

def variantsNotGrouped (path : String) : Finding :=
  .warning
    (.warning "VARIANTS_NOT_GROUPED" "Variant properties should be inside a variants object" path
      "Move variant properties like \"Condition\", \"Leading\" into a variants object")

def hasLayoutMode (container : Json) : Bool :=
  ((container.field? "layoutMode").bind Json.asString?).elim false fun text =>
    (LayoutMode.ofText text).isSome

def isPositive (json : Json) : Bool :=
  json.asNumber?.elim false fun number => 0.0 < number.toFloat

/-- The container of the root has a layout mode, and its width is positive if it has one. -/
def checkContainer (container : Json) : List Finding :=
  (if hasLayoutMode container then [] else [invalidLayoutMode]) ++
    ((presentField "width" container).elim [] fun width =>
      if isPositive width then [] else [invalidWidth])

def checkProperties (path : String) (properties : Json) : List Finding :=
  let variants := presentField "variants" properties
  let grouped := variants.elim [] fun value => if value.isObject then [] else [invalidVariants path]
  let loose := commonDimensions.any fun name => (properties.field? name).isSome
  grouped ++ if loose && variants.isNone then [variantsNotGrouped path] else []

/-- A text field that is not empty. -/
def nonEmptyField (name : String) (fields : Dict Json) : Option String :=
  ((fields.get? name).bind Json.asString?).filter fun text => text != ""

/-- What is wrong with an item of this type, apart from its inner items. -/
def checkFields (path itemType : String) (fields : Dict Json) : List Finding :=
  let id := nonEmptyField "componentNodeId" fields
  let missing := if isComponentType itemType && id.isNone then [missingComponentId path] else []
  let malformed := id.elim [] fun id => if isWellFormedId id then [] else [invalidComponentId path]
  let properties :=
    match fields.get? "properties" with
    | some (.object properties) => checkProperties (path ++ ".properties") (.object properties)
    | _ => []
  missing ++ malformed ++ properties

mutual

/-- An item without a type is not looked into. -/
def checkItem (path : String) : Json → List Finding
  | .object fields =>
      match nonEmptyField "type" fields with
      | none => [missingType path]
      | some itemType => checkFields path itemType fields ++ checkItems (itemsPath path) fields
  | _ => [missingType path]

/-- The elements of the field `items`, if it is an array. -/
def checkItems (path : String) : List (String × Json) → List Finding
  | [] => []
  | (key, .array elements) :: more =>
      if key = "items" then checkElements path 0 elements else checkItems path more
  | (key, _) :: more => if key = "items" then [] else checkItems path more

def checkElements (path : String) (index : Nat) : List Json → List Finding
  | [] => []
  | element :: more =>
      checkItem (elementPath path index) element ++ checkElements path (index + 1) more

end

def checkRootItems (layout : Json) : List Finding :=
  match layout with
  | .object fields => checkItems "items" fields
  | _ => []

def check (layout : Json) : List Finding :=
  let container := presentField "layoutContainer" layout
  let items := presentField "items" layout
  (if container.isNone && items.isNone then [missingRoot] else []) ++
    container.elim [] checkContainer ++ checkRootItems layout

end DesignScene.Structure
