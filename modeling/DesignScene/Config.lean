/-
This file holds the settings of the library and reads them from JSON.
-/
import DesignScene.Json.Record
import DesignScene.Scalar.Basic

namespace DesignScene

structure FontName where
  family : String
  style : String
deriving DecidableEq

structure RenderConfig (α : Type) where
  /-- The root frame is never lower than this. -/
  rootMinHeight : α
  /-- Text wraps inside frames up to this width. -/
  textWrapThreshold : α
  defaultFont : FontName
  boldFont : FontName
  defaultFontSize : α
  /-- The gap between two root frames on the canvas. -/
  canvasGap : α
  defaultRootWidth : α
  fallbackFrameWidth : α
  fallbackFrameHeight : α
  placeholderWidth : α
  placeholderHeight : α

structure ReviewConfig (α : Type) where
  checkStructure : Bool
  checkComponents : Bool
  checkDesignSystem : Bool
  /-- The generator is asked for suggestions. -/
  askGenerator : Bool
  qualityThreshold : α
  /-- How many fixes are asked for at most. -/
  maxRetries : Nat
  autoFix : Bool

/-- How often and how patiently a generator is called. -/
structure RetryPolicy where
  maxRetries : Nat
  /-- Milliseconds before the first retry; each retry waits this much longer. -/
  retryDelay : Nat
  /-- Milliseconds after which a call is given up. -/
  timeout : Nat

structure Config (α : Type) where
  render : RenderConfig α
  review : ReviewConfig α
  retry : RetryPolicy

/-- The greatest delay that is waited. -/
def greatestDelay : Nat := UInt64.size - 1

def RetryPolicy.delay (policy : RetryPolicy) (attempt : Nat) : Nat :=
  min (policy.retryDelay * attempt) greatestDelay

def RetryPolicy.standard : RetryPolicy := ⟨3, 1000, 30000⟩

section Standard

variable {α : Type} [Scalar α]

def RenderConfig.standard : RenderConfig α where
  rootMinHeight := Scalar.ofNat 600
  textWrapThreshold := Scalar.ofNat 375
  defaultFont := ⟨"Inter", "Regular"⟩
  boldFont := ⟨"Inter", "Bold"⟩
  defaultFontSize := Scalar.ofNat 16
  canvasGap := Scalar.ofNat 100
  defaultRootWidth := Scalar.ofNat 800
  fallbackFrameWidth := Scalar.ofNat 375
  fallbackFrameHeight := Scalar.ofNat 100
  placeholderWidth := Scalar.ofNat 200
  placeholderHeight := Scalar.ofNat 48

def ReviewConfig.standard : ReviewConfig α where
  checkStructure := true
  checkComponents := true
  checkDesignSystem := true
  askGenerator := false
  qualityThreshold := Scalar.ofRatio 7 10
  maxRetries := 2
  autoFix := true

def Config.standard : Config α := ⟨RenderConfig.standard, ReviewConfig.standard, RetryPolicy.standard⟩

end Standard

def FontName.toJson (font : FontName) : Json :=
  .object [("family", .string font.family), ("style", .string font.style)]

def FontName.ofJson (json : Json) : Option FontName := do
  match ← Json.recordFields ["family", "style"] json with
  | [family, style] =>
      some
        { family := ← Json.required Json.asString? family
          style := ← Json.required Json.asString? style }
  | _ => none

section Reading

variable {α : Type} [Scalar α]

def RenderConfig.fieldNames : List String :=
  ["rootMinHeight", "textWrapThreshold", "defaultFont", "boldFont", "defaultFontSize", "canvasGap",
    "defaultRootWidth", "fallbackFrameWidth", "fallbackFrameHeight", "placeholderWidth",
    "placeholderHeight"]

def RenderConfig.ofJson (json : Json) : Option (RenderConfig α) := do
  let standard : RenderConfig α := RenderConfig.standard
  match ← Json.recordFields RenderConfig.fieldNames json with
  | [rootMinHeight, textWrapThreshold, defaultFont, boldFont, defaultFontSize, canvasGap,
      defaultRootWidth, fallbackFrameWidth, fallbackFrameHeight, placeholderWidth,
      placeholderHeight] =>
      let size (value : α) := Json.withDefault value Scalar.ofJson?
      some
        { rootMinHeight := ← size standard.rootMinHeight rootMinHeight
          textWrapThreshold := ← size standard.textWrapThreshold textWrapThreshold
          defaultFont := ← Json.withDefault standard.defaultFont FontName.ofJson defaultFont
          boldFont := ← Json.withDefault standard.boldFont FontName.ofJson boldFont
          defaultFontSize := ← size standard.defaultFontSize defaultFontSize
          canvasGap := ← size standard.canvasGap canvasGap
          defaultRootWidth := ← size standard.defaultRootWidth defaultRootWidth
          fallbackFrameWidth := ← size standard.fallbackFrameWidth fallbackFrameWidth
          fallbackFrameHeight := ← size standard.fallbackFrameHeight fallbackFrameHeight
          placeholderWidth := ← size standard.placeholderWidth placeholderWidth
          placeholderHeight := ← size standard.placeholderHeight placeholderHeight }
  | _ => none

def ReviewConfig.fieldNames : List String :=
  ["enableStructuralValidation", "enableComponentValidation", "enableDesignSystemValidation",
    "enableAiValidation", "qualityThreshold", "maxRetries", "autoFixEnabled"]

def ReviewConfig.ofJson (json : Json) : Option (ReviewConfig α) := do
  let standard : ReviewConfig α := ReviewConfig.standard
  match ← Json.recordFields ReviewConfig.fieldNames json with
  | [structureField, componentsField, designSystemField, generatorField, qualityThreshold,
      maxRetries, autoFix] =>
      let flag (value : Bool) := Json.withDefault value Json.asBool?
      some
        { checkStructure := ← flag standard.checkStructure structureField
          checkComponents := ← flag standard.checkComponents componentsField
          checkDesignSystem := ← flag standard.checkDesignSystem designSystemField
          askGenerator := ← flag standard.askGenerator generatorField
          qualityThreshold :=
            ← Json.withDefault standard.qualityThreshold Scalar.ofJson? qualityThreshold
          maxRetries := ← Json.withDefault standard.maxRetries Json.toWord32? maxRetries
          autoFix := ← flag standard.autoFix autoFix }
  | _ => none

def RetryPolicy.ofJson (json : Json) : Option RetryPolicy := do
  let standard := RetryPolicy.standard
  match ← Json.recordFields ["maxRetries", "retryDelayMs", "timeoutMs"] json with
  | [maxRetries, retryDelay, timeout] =>
      some
        { maxRetries := ← Json.withDefault standard.maxRetries Json.toWord32? maxRetries
          retryDelay := ← Json.withDefault standard.retryDelay Json.toWord64? retryDelay
          timeout := ← Json.withDefault standard.timeout Json.toWord64? timeout }
  | _ => none

def Config.ofJson (json : Json) : Option (Config α) := do
  match ← Json.recordFields ["render", "validation", "retry"] json with
  | [render, review, retry] =>
      some
        { render := ← Json.withDefault RenderConfig.standard RenderConfig.ofJson render
          review := ← Json.withDefault ReviewConfig.standard ReviewConfig.ofJson review
          retry := ← Json.withDefault RetryPolicy.standard RetryPolicy.ofJson retry }
  | _ => none

/-- A text that repeats a field does not read. -/
def Config.ofText (text : String) : Option (Config α) := (Json.parseWritten text).bind Config.ofJson

end Reading

def RenderConfig.toJson (config : RenderConfig Float) : Json :=
  .object
    [("rootMinHeight", .ofFloat config.rootMinHeight),
      ("textWrapThreshold", .ofFloat config.textWrapThreshold),
      ("defaultFont", config.defaultFont.toJson), ("boldFont", config.boldFont.toJson),
      ("defaultFontSize", .ofFloat config.defaultFontSize),
      ("canvasGap", .ofFloat config.canvasGap),
      ("defaultRootWidth", .ofFloat config.defaultRootWidth),
      ("fallbackFrameWidth", .ofFloat config.fallbackFrameWidth),
      ("fallbackFrameHeight", .ofFloat config.fallbackFrameHeight),
      ("placeholderWidth", .ofFloat config.placeholderWidth),
      ("placeholderHeight", .ofFloat config.placeholderHeight)]

def ReviewConfig.toJson (config : ReviewConfig Float) : Json :=
  .object
    [("enableStructuralValidation", .bool config.checkStructure),
      ("enableComponentValidation", .bool config.checkComponents),
      ("enableDesignSystemValidation", .bool config.checkDesignSystem),
      ("enableAiValidation", .bool config.askGenerator),
      ("qualityThreshold", .ofFloat config.qualityThreshold),
      ("maxRetries", .ofNat config.maxRetries), ("autoFixEnabled", .bool config.autoFix)]

def RetryPolicy.toJson (policy : RetryPolicy) : Json :=
  .object
    [("maxRetries", .ofNat policy.maxRetries), ("retryDelayMs", .ofNat policy.retryDelay),
      ("timeoutMs", .ofNat policy.timeout)]

def Config.toJson (config : Config Float) : Json :=
  .object
    [("render", config.render.toJson), ("validation", config.review.toJson),
      ("retry", config.retry.toJson)]

end DesignScene
