/-
This file holds what a design host is asked and what it answers.
-/
import DesignScene.Host.Blueprint

namespace DesignScene

/-- A style with a name that the host knows. -/
structure StyleRef where
  id : String
  name : String

/-- Why an item or a layout could not be rendered. -/
inductive RenderError where
  | structural (path message : String)
  | componentNotFound (componentId : String)
  | fontLoad (font : FontName) (detail : String)
  | host (detail : String)
  | invalidJson

/-- The message of an error, without the detail of the parser where a text is no JSON. -/
def RenderError.message : RenderError → String
  | structural path message => "Structural error at " ++ path ++ ": " ++ message
  | componentNotFound componentId => "Component not found: " ++ componentId
  | fontLoad font detail =>
      "Failed to load font " ++ font.family ++ " " ++ font.style ++ ": " ++ detail
  | host detail => "Host error: " ++ detail
  | invalidJson => "Invalid JSON"

/-- The approximate size of a text; every line that is wrapped takes the whole width. -/
def approximateSize {α : Type} [Scalar α] (text : String) (fontSize : α)
    (wrapWidth : Option α) : α × α :=
  let natural (line : List Char) : α := Scalar.ofNat line.length * (fontSize * Scalar.ofRatio 1 2)
  let lines := Text.pieces (· == '\n') text.toList
  let (width, count) :=
    match wrapWidth.filter fun width => decide (Scalar.ofNat 0 < width) with
    | some width =>
        (width,
          lines.foldl (fun count line => count + max (Scalar.ceilCount (natural line / width)) 1) 0)
    | none => (Scalar.greatest (lines.map natural), lines.length)
  (width, Scalar.ofNat (max count 1) * (fontSize * Scalar.ofRatio 6 5))

/-- A design host; its state stands for everything that its answers depend on. -/
structure Host (α σ : Type) where
  blueprint : String → σ → Except RenderError (Option (Blueprint α)) × σ
  loadFont : FontName → σ → Except RenderError Unit × σ
  paintStyle : String → σ → Option StyleRef × σ
  textStyle : String → σ → Option StyleRef × σ
  /-- The component of an icon that the registry does not know. -/
  icon : String → σ → Option String × σ
  measureText : String → α → Option α → α × α

/-- A host without any components or styles, which has all fonts. -/
def Host.empty {α σ : Type} [Scalar α] : Host α σ where
  blueprint _ state := (.ok none, state)
  loadFont _ state := (.ok (), state)
  paintStyle _ state := (none, state)
  textStyle _ state := (none, state)
  icon _ state := (none, state)
  measureText := approximateSize

end DesignScene
