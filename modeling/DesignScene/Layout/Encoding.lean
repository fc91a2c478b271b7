/-
This file writes layout settings as JSON and reads size constraints back.
-/
import DesignScene.Json.Record
import DesignScene.Layout.Directive

namespace DesignScene

def SizeConstraints.toJson (constraints : SizeConstraints Float) : Json :=
  .object
    [("minWidth", .ofOption .ofFloat constraints.minWidth),
      ("maxWidth", .ofOption .ofFloat constraints.maxWidth),
      ("minHeight", .ofOption .ofFloat constraints.minHeight),
      ("maxHeight", .ofOption .ofFloat constraints.maxHeight)]

/-- All four bounds stand in an array of constraints. -/
def SizeConstraints.ofJson {α : Type} [Scalar α] (json : Json) : Option (SizeConstraints α) := do
  let names := ["minWidth", "maxWidth", "minHeight", "maxHeight"]
  if json.asArray?.elim false fun elements => elements.length != names.length then none
  else
    match ← Json.recordFields names json with
    | [minWidth, maxWidth, minHeight, maxHeight] =>
        some
          { minWidth := ← Json.optional Scalar.ofJson? minWidth
            maxWidth := ← Json.optional Scalar.ofJson? maxWidth
            minHeight := ← Json.optional Scalar.ofJson? minHeight
            maxHeight := ← Json.optional Scalar.ofJson? maxHeight }
    | _ => none

def LayoutDirective.toJson (directive : LayoutDirective Float) : Json :=
  .object
    [("horizontalSizing", .ofOption (fun sizing => .string sizing.name) directive.horizontalSizing),
      ("layoutAlign", .ofOption (fun align => .string align.name) directive.layoutAlign),
      ("layoutGrow", .ofOption .ofFloat directive.layoutGrow),
      ("constraints", directive.constraints.toJson)]

def ChildLayout.toJson (layout : ChildLayout Float) : Json :=
  .object
    [("layoutAlign", .string layout.layoutAlign.name),
      ("layoutGrow", .ofFloat layout.layoutGrow),
      ("hugContents", .bool layout.hugContents),
      ("fillsWidth", .bool layout.fillsWidth)]

def Padding.toJson (padding : Padding Float) : Json :=
  .object
    [("top", .ofFloat padding.top), ("right", .ofFloat padding.right),
      ("bottom", .ofFloat padding.bottom), ("left", .ofFloat padding.left)]

def ItemSpacing.toJson : ItemSpacing Float → Json
  | .fixed gap => .object [("fixed", .ofFloat gap)]
  | .auto => .string "auto"

end DesignScene
