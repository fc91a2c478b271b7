/-
This file holds the slots of a component that take authored content.
-/
import DesignScene.Json.Record

namespace DesignScene

inductive TextClassification where
  | primary
  | secondary
  | tertiary
deriving DecidableEq

inductive SlotDataType where
  | scalar
  | array
deriving DecidableEq

structure TextSlot where
  name : String
  nodeId : String
  classification : TextClassification
  maxItems : Option Nat := none
  dataType : SlotDataType := .scalar
deriving DecidableEq

inductive MediaKind where
  | componentInstance
  | vector
  | image
deriving DecidableEq

structure MediaSlot where
  name : String
  nodeId : String
  kind : MediaKind
deriving DecidableEq

namespace TextClassification

def name : TextClassification → String
  | primary => "primary"
  | secondary => "secondary"
  | tertiary => "tertiary"

def ofName (text : String) : Option TextClassification :=
  [primary, secondary, tertiary].find? (·.name == text)

end TextClassification

namespace SlotDataType

def name : SlotDataType → String
  | scalar => "scalar"
  | array => "array"

/-- A scalar slot may also be called a single one. -/
def ofName : String → Option SlotDataType
  | "scalar" => some scalar
  | "single" => some scalar
  | "array" => some array
  | _ => none

end SlotDataType

namespace MediaKind

def name : MediaKind → String
  | componentInstance => "component-instance"
  | vector => "vector"
  | image => "image"

def ofName (text : String) : Option MediaKind :=
  [componentInstance, vector, image].find? (·.name == text)

end MediaKind

def TextSlot.toJson (slot : TextSlot) : Json :=
  .object
    ([("name", .string slot.name), ("nodeId", .string slot.nodeId),
        ("classification", .string slot.classification.name)] ++
      (slot.maxItems.map fun count => ("maxItems", Json.ofNat count)).toList ++
      [("dataType", .string slot.dataType.name)])

def TextSlot.ofJson (json : Json) : Option TextSlot := do
  match ← Json.recordFields ["name", "nodeId", "classification", "maxItems", "dataType"] json with
  | [name, nodeId, classification, maxItems, dataType] =>
      some
        { name := ← Json.required Json.asString? name
          nodeId := ← Json.required Json.asString? nodeId
          classification := ← Json.required (Json.toNamed? TextClassification.ofName) classification
          maxItems := ← Json.optional Json.toWord64? maxItems
          dataType := ← Json.withDefault .scalar (Json.toNamed? SlotDataType.ofName) dataType }
  | _ => none

def MediaSlot.toJson (slot : MediaSlot) : Json :=
  .object
    [("name", .string slot.name), ("nodeId", .string slot.nodeId), ("kind", .string slot.kind.name)]

def MediaSlot.ofJson (json : Json) : Option MediaSlot := do
  match ← Json.recordFields ["name", "nodeId", "kind"] json with
  | [name, nodeId, kind] =>
      some
        { name := ← Json.required Json.asString? name
          nodeId := ← Json.required Json.asString? nodeId
          kind := ← Json.required (Json.toNamed? MediaKind.ofName) kind }
  | _ => none

end DesignScene
