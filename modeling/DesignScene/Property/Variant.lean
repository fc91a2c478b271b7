/-
This file checks variant values against the dimensions of a component.
-/
import DesignScene.Component.Schema
import DesignScene.Property.Resolved

namespace DesignScene

/-- The keys that name variant dimensions of most components. -/
def commonDimensions : List String :=
  ["Condition", "Leading", "Trailing", "State", "Style", "Size", "Type"]

/-- The dimension with this very name, else the first one with the same normalized name. -/
def ComponentSchema.canonicalDimension (schema : ComponentSchema) (key : String) :
    Option String :=
  if schema.variantDimensions.hasKey key then some key
  else
    let wanted := Text.normalizeKey key
    schema.variantDimensions.keys.find? fun name => Text.normalizeKey name == wanted

/-- The dimension that a key beside the variants names; without a schema a common one. -/
def looseDimension (schema : Option ComponentSchema) (key : String) : Option String :=
  match schema with
  | some schema => schema.canonicalDimension key
  | none => commonDimensions.find? fun name => Text.equalIgnoringAsciiCase name key

/-- Truth values are capitalized, and numbers are written as they were authored. -/
def coerceVariantValue : Json → Option String
  | .bool true => some "True"
  | .bool false => some "False"
  | .string text => some text
  | .number number => some number.toText
  | _ => none

/-- A value that was authored for a dimension. -/
structure VariantCandidate where
  dimension : String
  value : Json

/-- What becomes of a candidate. -/
inductive VariantOutcome where
  | chosen (dimension value : String)
  | failed (error : PropertyError)
  | dropped (warning : PropertyWarning)

def unknownDimension (schema : ComponentSchema) (dimension : String) : PropertyWarning where
  kind := .variantUnknown
  property := dimension
  message :=
    "Component " ++ schema.componentId ++ " has no variant dimension '" ++ dimension ++ "'"
  severity := .medium
  suggestions := schema.variantDimensions.keys

/-- A legal value that differs in ASCII case only is mentioned. -/
def illegalValue (dimension value : String) (legal : List String) : PropertyWarning where
  kind := .variantInvalid
  property := dimension
  message :=
    "Invalid value '" ++ value ++ "' for variant '" ++ dimension ++ "'. Valid values: " ++
      Text.joinWith ", " legal ++
      match legal.find? fun other => Text.equalIgnoringAsciiCase other value with
      | some close => " (did you mean '" ++ close ++ "'?)"
      | none => ""
  severity := .high
  suggestions := legal

/-- Without a schema every value is chosen. -/
def VariantCandidate.resolve (schema : Option ComponentSchema) (candidate : VariantCandidate) :
    VariantOutcome :=
  match coerceVariantValue candidate.value with
  | none =>
      .failed ⟨candidate.dimension, "Unsupported variant value: " ++ candidate.value.toText⟩
  | some value =>
      match schema with
      | none => .chosen candidate.dimension value
      | some schema =>
          match schema.canonicalDimension candidate.dimension with
          | none => .dropped (unknownDimension schema candidate.dimension)
          | some dimension =>
              let legal := (schema.variantValues dimension).getD []
              if legal.contains value then .chosen dimension value
              else .dropped (illegalValue dimension value legal)

end DesignScene
