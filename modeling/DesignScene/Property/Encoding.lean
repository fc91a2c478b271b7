/-
This file writes resolved properties as JSON.
-/
import DesignScene.Layout.Encoding
import DesignScene.Property.Resolved

namespace DesignScene

def PropertyWarning.toJson (warning : PropertyWarning) : Json :=
  .object
    [("kind", .string warning.kind.name), ("property", .string warning.property),
      ("message", .string warning.message), ("severity", .string warning.severity.name),
      ("suggestions", .ofList .string warning.suggestions)]

def PropertyError.toJson (error : PropertyError) : Json :=
  .object [("property", .string error.property), ("message", .string error.message)]

def TextValue.toJson : TextValue → Json
  | .single text => .string text
  | .multiple texts => .ofList .string texts

def SlotRef.toJson (slot : SlotRef) : Json :=
  .object [("slotName", .string slot.slotName), ("nodeId", .string slot.nodeId)]

def SlotBinding.toJson (binding : SlotBinding) : Json :=
  .object
    ([("slot", binding.slot.toJson), ("value", binding.value.toJson)] ++
      (binding.maxItems.map fun count => ("maxItems", Json.ofNat count)).toList)

def TextAssignment.toJson (assignment : TextAssignment) : Json :=
  .object
    [("property", .string assignment.property), ("strategy", .string assignment.strategy.name),
      ("bindings", .ofList SlotBinding.toJson assignment.bindings),
      ("hiddenSlots", .ofList SlotRef.toJson assignment.hiddenSlots)]

def MediaValue.toJson : MediaValue → Json
  | .reference target => .object [("type", .string "reference"), ("value", .string target)]
  | .visible isVisible => .object [("type", .string "visible"), ("value", .bool isVisible)]

def MediaAssignment.toJson (assignment : MediaAssignment) : Json :=
  .object
    [("property", .string assignment.property), ("strategy", .string assignment.strategy.name),
      ("slot", assignment.slot.toJson), ("kind", .string assignment.kind.name),
      ("value", assignment.value.toJson)]

def ResolvedProperties.toJson (resolved : ResolvedProperties Float) : Json :=
  .object
    [("variants", .ofDict .string resolved.variants),
      ("textProperties", .ofList TextAssignment.toJson resolved.textProperties),
      ("mediaProperties", .ofList MediaAssignment.toJson resolved.mediaProperties),
      ("layoutProperties", resolved.layoutProperties.toJson),
      ("passthrough", .object resolved.passthrough),
      ("errors", .ofList PropertyError.toJson resolved.errors),
      ("warnings", .ofList PropertyWarning.toJson resolved.warnings)]

end DesignScene
