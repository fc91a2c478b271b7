/-
This file shows when a text is rendered as the error frame.
-/
import DesignScene.Proofs.Render.Depiction

namespace DesignScene.Scene

/-- A frame without anything in it takes the place of the layout, and the user is told why. -/
structure IsErrorFrame {α : Type} (scene : Scene α) : Prop where
  alone : scene.graph.size = 1
  notified : scene.report.notification.isSome = true
  warnings : scene.report.warnings = []
  placeholders : scene.report.placeholders = []

variable {α σ : Type} [Scalar α]

/-- The document that was written, with no tabs joined and no identifiers filled in. -/
def readAuthored (text : String) : Except RenderError (LayoutDocument α) :=
  match Json.parse text with
  | none => .error .invalidJson
  | some layout => (LayoutDocument.ofJson layout).mapError documentFault

/-- The preparation of a layout leaves the error with which it cannot be read. -/
theorem readDocument_eq_error_iff (registry : Registry) (text : String) (error : RenderError) :
    readDocument (α := α) registry text = .error error ↔
      readAuthored (α := α) text = .error error := by
  rw [readDocument, readAuthored]
  cases Json.parse text with
  | none => rfl
  | some layout =>
      have mapped (layout : Json) :
          (LayoutDocument.ofJson (α := α) layout).mapError documentFault = .error error ↔
            ∃ fault, LayoutDocument.fault? α layout = some fault ∧ documentFault fault = error := by
        simp only [LayoutDocument.fault?_eq_some_iff]
        cases LayoutDocument.ofJson (α := α) layout <;> simp [Except.mapError]
      rw [mapped, mapped, LayoutDocument.fault?_prepare]

/-- The scene for an error is an error frame. -/
theorem isErrorFrame_fallback (config : RenderConfig α) (cursor : CanvasCursor α)
    (error : RenderError) : ((fallback config error).placeRoot config cursor).1.IsErrorFrame where
  alone := by
    rw [placeRoot, SceneGraph.size_update, fallback, SceneGraph.size_update, SceneGraph.size_add]
    rfl
  notified := rfl
  warnings := rfl
  placeholders := rfl

/-- A scene that is rendered has no message to the user. -/
theorem notification_ofDocument (context : RenderContext α σ) (document : LayoutDocument α)
    (hostState : σ) : (ofDocument context document hostState).1.report.notification = none := by
  have empty : Outlines.WellFormed (Stage.start (α := α) hostState).graph.outline := .nil
  obtain ⟨_, _, grown⟩ := Stage.grows_renderDocument context document empty
  rw [ofDocument, grown.report.notification, Stage.start]

/-- The error frame stands for a text exactly if the text as it was written is no document. -/
theorem ofText_isErrorFrame (context : RenderContext α σ) (text : String) (cursor : CanvasCursor α)
    (hostState : σ) :
    ((ofText context text cursor hostState).1.1.IsErrorFrame ↔
        ∃ error, readAuthored (α := α) text = .error error) ∧
      (∀ error, readAuthored (α := α) text = .error error →
        ofText context text cursor hostState =
          ((fallback context.config.render error).placeRoot context.config.render cursor, hostState)) ∧
      ∀ layout, LayoutDocument.fault? α (Tabs.merge layout).1 = LayoutDocument.fault? α layout ∧
        LayoutDocument.fault? α (IdResolution.resolve context.registry layout).1 =
          LayoutDocument.fault? α layout := by
  have failed (error : RenderError) (unread : readAuthored (α := α) text = .error error) :
      ofText context text cursor hostState =
        ((fallback context.config.render error).placeRoot context.config.render cursor, hostState) := by
    rw [ofText, (readDocument_eq_error_iff context.registry text error).mpr unread]
  refine ⟨⟨fun framed => ?_, ?_⟩, failed, fun layout =>
    ⟨LayoutDocument.fault?_merge α layout, LayoutDocument.fault?_resolve α _ layout⟩⟩
  · cases read : readDocument (α := α) context.registry text with
    | error error => exact ⟨error, (readDocument_eq_error_iff context.registry text error).mp read⟩
    | ok document =>
        have notified := framed.notified
        rw [ofText, read, report_placeRoot, notification_ofDocument] at notified
        cases notified
  · rintro ⟨error, unread⟩
    rw [failed error unread]
    exact isErrorFrame_fallback context.config.render cursor error

end DesignScene.Scene
