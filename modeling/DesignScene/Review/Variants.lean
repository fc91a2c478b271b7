/-
This file checks the variants that a layout asks for.
-/
import DesignScene.Component.Registry
import DesignScene.Document.Ingest
import DesignScene.Property.Variant
import DesignScene.Review.Issue

namespace DesignScene.Variants

def invalidValue (path key dimension value : String) (legal : List String) : Finding :=
  .error
    ⟨"INVALID_VARIANT_VALUE",
      "\"" ++ value ++ "\" is not a valid value for variant " ++ dimension,
      path ++ ".variants." ++ key, .medium, true,
      some ("Use one of: " ++ Text.joinWith ", " legal)⟩

/-- Only known dimensions that list their values are checked. -/
def checkEntry (schema : ComponentSchema) (path : String) (entry : String × Json) :
    Option Finding := do
  let dimension ← schema.canonicalDimension entry.1
  let value ← coerceVariantValue entry.2
  let legal := (schema.variantValues dimension).getD []
  if !legal.isEmpty && !legal.contains value then
    some (invalidValue path entry.1 dimension value legal)
  else none

/-- The variants beside the properties come before those among them. -/
def groups (fields : Dict Json) : List (String × Json) :=
  ((fields.get? "variants").bind Json.asObject?).getD [] ++
    (((fields.get? "properties").bind fun properties => properties.field? "variants").bind
      Json.asObject?).getD []

def checkFields (registry : Registry) (path : String) (fields : Dict Json) : List Finding :=
  match ((fields.get? "componentNodeId").bind Json.asString?).bind registry.lookup with
  | none => []
  | some schema => (groups fields).filterMap (checkEntry schema path)

mutual

def checkItem (registry : Registry) (path : String) : Json → List Finding
  | .object fields =>
      checkFields registry path fields ++ checkItems registry (itemsPath path) fields
  | _ => []

def checkItems (registry : Registry) (path : String) : List (String × Json) → List Finding
  | [] => []
  | (key, .array elements) :: more =>
      if key = "items" then checkElements registry path 0 elements
      else checkItems registry path more
  | (key, _) :: more => if key = "items" then [] else checkItems registry path more

def checkElements (registry : Registry) (path : String) (index : Nat) : List Json → List Finding
  | [] => []
  | element :: more =>
      checkItem registry (elementPath path index) element ++
        checkElements registry path (index + 1) more

end

def check (registry : Registry) (layout : Json) : List Finding :=
  match layout with
  | .object fields => checkItems registry "items" fields
  | _ => []

end DesignScene.Variants
