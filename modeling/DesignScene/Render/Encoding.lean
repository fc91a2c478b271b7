/-
This file writes rendered scenes as JSON.
-/
import DesignScene.Property.Encoding
import DesignScene.Render.Scene
import DesignScene.Scene.Encoding

namespace DesignScene

def RenderWarning.toJson (warning : RenderWarning) : Json :=
  .object [("path", .string warning.path), ("message", .string warning.message)]

def RenderReport.toJson (report : RenderReport) : Json :=
  .object
    [("warnings", .ofList RenderWarning.toJson report.warnings),
      ("propertyWarnings", .ofList PropertyWarning.toJson report.propertyWarnings),
      ("placeholders", .ofList .string report.placeholders),
      ("basicModeComponents", .ofList .string report.basicModeComponents),
      ("notification", .ofOption .string report.notification)]

def Scene.toJson (scene : Scene Float) : Json :=
  .object
    [("graph", scene.graph.toJson), ("root", .ofNat scene.root), ("report", scene.report.toJson)]

def CanvasCursor.toJson (cursor : CanvasCursor Float) : Json :=
  .object [("nextX", .ofFloat cursor.nextX), ("y", .ofFloat cursor.y)]

def CanvasCursor.ofJson {α : Type} [Scalar α] (json : Json) : Option (CanvasCursor α) := do
  match ← Json.recordFields ["nextX", "y"] json with
  | [nextX, y] =>
      some
        { nextX := ← Json.required Scalar.ofJson? nextX
          y := ← Json.required Scalar.ofJson? y }
  | _ => none

end DesignScene
