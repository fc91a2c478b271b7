/-
This file holds the properties of a component after they have been resolved.
-/
import DesignScene.Layout.Directive
import DesignScene.Matching.Basic
import DesignScene.Severity

namespace DesignScene

inductive WarningKind where
  | variantInvalid
  | variantUnknown
  | textSlotUnmatched
  | mediaSlotUnmatched
  | schemaMissing
deriving DecidableEq

def WarningKind.name : WarningKind → String
  | variantInvalid => "variant-invalid"
  | variantUnknown => "variant-unknown"
  | textSlotUnmatched => "text-slot-unmatched"
  | mediaSlotUnmatched => "media-slot-unmatched"
  | schemaMissing => "schema-missing"

structure PropertyWarning where
  kind : WarningKind
  property : String
  message : String
  severity : Severity
  suggestions : List String
deriving DecidableEq

/-- A property whose value cannot be used. -/
structure PropertyError where
  property : String
  message : String
deriving DecidableEq

inductive TextValue where
  | single (text : String)
  /-- The texts are spread over repeated nodes. -/
  | multiple (texts : List String)
deriving DecidableEq

structure SlotRef where
  slotName : String
  nodeId : String
deriving DecidableEq

structure SlotBinding where
  slot : SlotRef
  value : TextValue
  maxItems : Option Nat := none
deriving DecidableEq

structure TextAssignment where
  property : String
  strategy : MatchStrategy
  bindings : List SlotBinding
  /-- The slots of the bound group that received no text. -/
  hiddenSlots : List SlotRef
deriving DecidableEq

inductive MediaValue where
  | reference (target : String)
  | visible (isVisible : Bool)
deriving DecidableEq

structure MediaAssignment where
  property : String
  strategy : MatchStrategy
  slot : SlotRef
  kind : MediaKind
  value : MediaValue
deriving DecidableEq

/-- One setting of a layout directive. -/
inductive DirectiveSetting (α : Type) where
  | horizontalSizing (value : HorizontalSizing)
  | layoutAlign (value : LayoutAlign)
  | layoutGrow (value : α)
  | minWidth (value : α)
  | maxWidth (value : α)
  | minHeight (value : α)
  | maxHeight (value : α)

def LayoutDirective.set {α : Type} (directive : LayoutDirective α) :
    DirectiveSetting α → LayoutDirective α
  | .horizontalSizing value => { directive with horizontalSizing := some value }
  | .layoutAlign value => { directive with layoutAlign := some value }
  | .layoutGrow value => { directive with layoutGrow := some value }
  | .minWidth value =>
      { directive with constraints := { directive.constraints with minWidth := some value } }
  | .maxWidth value =>
      { directive with constraints := { directive.constraints with maxWidth := some value } }
  | .minHeight value =>
      { directive with constraints := { directive.constraints with minHeight := some value } }
  | .maxHeight value =>
      { directive with constraints := { directive.constraints with maxHeight := some value } }

structure ResolvedProperties (α : Type) where
  variants : Dict String
  textProperties : List TextAssignment
  mediaProperties : List MediaAssignment
  layoutProperties : LayoutDirective α
  /-- Values that are kept as they are. -/
  passthrough : Dict Json
  errors : List PropertyError
  warnings : List PropertyWarning

end DesignScene
