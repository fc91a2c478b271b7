/-
This file holds what a scan of the design system records about one component.
-/
import DesignScene.Component.Slot
import DesignScene.Digest
import DesignScene.Json.Printer

namespace DesignScene

structure ComponentSchema where
  componentId : String
  name : String := ""
  /-- The kind of element that the component is, such as a tab or a list item. -/
  componentType : Option String := none
  variantDimensions : Dict (List String) := []
  textSlots : List TextSlot := []
  mediaSlots : List MediaSlot := []
  /-- The second of the scan, counted from the start of 1970. -/
  scannedAt : Option Nat := none
deriving DecidableEq

namespace ComponentSchema

def variantValues (schema : ComponentSchema) (dimension : String) : Option (List String) :=
  schema.variantDimensions.get? dimension

/-- The fields stand in a fixed order, and absent optional ones are left out. -/
def toJson (schema : ComponentSchema) : Json :=
  .object
    ([("componentId", .string schema.componentId), ("name", .string schema.name)] ++
      (schema.componentType.map fun text => ("componentType", Json.string text)).toList ++
      [("variantDimensions", Json.ofDict (Json.ofList .string) schema.variantDimensions),
        ("textSlots", Json.ofList TextSlot.toJson schema.textSlots),
        ("mediaSlots", Json.ofList MediaSlot.toJson schema.mediaSlots)] ++
      (schema.scannedAt.map fun second => ("scannedAt", Json.ofNat second)).toList)

def fieldNames : List String :=
  ["componentId", "name", "componentType", "variantDimensions", "textSlots", "mediaSlots",
    "scannedAt"]

def ofJson (json : Json) : Option ComponentSchema := do
  match ← Json.recordFields fieldNames json with
  | [componentId, name, componentType, variantDimensions, textSlots, mediaSlots, scannedAt] =>
      some
        { componentId := ← Json.required Json.asString? componentId
          name := ← Json.withDefault "" Json.asString? name
          componentType := ← Json.optional Json.asString? componentType
          variantDimensions :=
            ← Json.withDefault [] (Json.toDict? (Json.toList? Json.asString?)) variantDimensions
          textSlots := ← Json.withDefault [] (Json.toList? TextSlot.ofJson) textSlots
          mediaSlots := ← Json.withDefault [] (Json.toList? MediaSlot.ofJson) mediaSlots
          scannedAt := ← Json.optional Json.toWord64? scannedAt }
  | _ => none

def canonicalText (schema : ComponentSchema) : String := schema.toJson.toText

/-- Two scans of one component are told apart by this digest. -/
def fingerprint (schema : ComponentSchema) : String := Digest.ofText schema.canonicalText

/-- Seconds after which a scan is stale. -/
def staleAfter : Nat := 7 * 24 * 60 * 60

/-- A record without the time of its scan is stale. -/
def isStale (now : Nat) (schema : ComponentSchema) : Bool :=
  match schema.scannedAt with
  | none => true
  | some second => staleAfter < now - second

end ComponentSchema

end DesignScene
