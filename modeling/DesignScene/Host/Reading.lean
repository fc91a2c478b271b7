/-
This file reads blueprints and styles of a design host from JSON.
-/
import DesignScene.Host.Basic
import DesignScene.Json.Record

namespace DesignScene

def StyleRef.ofJson (json : Json) : Option StyleRef := do
  match ← Json.recordFields ["id", "name"] json with
  | [id, name] =>
      some
        { id := ← Json.required Json.asString? id
          name := ← Json.required Json.asString? name }
  | _ => none

section Reading

variable {α : Type} [Scalar α]

/-- The kind of a tagged record and the rest of the record. -/
def splitTag (json : Json) : Option (String × Json) :=
  match json with
  | .object fields => ((Dict.get? "type" fields).bind Json.asString?).map fun tag => (tag, json)
  | .array (.string tag :: rest) => some (tag, .array rest)
  | _ => none

def isEmptyRest : Json → Bool
  | .array rest => rest.isEmpty
  | _ => true

def BlueprintKind.ofTag (tag : String) (json : Json) : Option (BlueprintKind α) := do
  match tag with
  | "frame" => if isEmptyRest json then some .frame else none
  | "vector" => if isEmptyRest json then some .vector else none
  | "image" => if isEmptyRest json then some .image else none
  | "instance" =>
      match ← Json.recordFields ["mainComponentId"] json with
      | [mainComponentId] => some (.instance (← Json.required Json.asString? mainComponentId))
      | _ => none
  | "text" =>
      match ← Json.recordFields ["characters", "fonts", "fontSize", "missingFont"] json with
      | [characters, fonts, fontSize, missingFont] =>
          some
            (.text (← Json.required Json.asString? characters)
              (← Json.required (Json.toList? FontName.ofJson) fonts)
              (← Json.required Scalar.ofJson? fontSize)
              (← Json.withDefault false Json.asBool? missingFont))
      | _ => none
  | _ => none

def BlueprintKind.ofJson (json : Json) : Option (BlueprintKind α) :=
  (splitTag json).bind fun (tag, rest) => BlueprintKind.ofTag tag rest

def BlueprintNode.fieldNames : List String :=
  ["id", "name", "visible", "width", "height", "kind", "children"]

/-- Nodes that are nested at most `depth` deep. -/
def BlueprintNode.ofJson (depth : Nat) (json : Json) : Option (BlueprintNode α) := do
  match depth with
  | 0 => none
  | depth + 1 =>
      match ← Json.recordFields BlueprintNode.fieldNames json with
      | [id, name, visible, width, height, kind, children] =>
          some
            (.node (← Json.required Json.asString? id) (← Json.required Json.asString? name)
              (← Json.withDefault true Json.asBool? visible)
              (← Json.withDefault (Scalar.ofNat 0) Scalar.ofJson? width)
              (← Json.withDefault (Scalar.ofNat 0) Scalar.ofJson? height)
              (← Json.required BlueprintKind.ofJson kind)
              (← Json.withDefault [] (Json.toList? (BlueprintNode.ofJson depth)) children))
      | _ => none

def Blueprint.ofJson (json : Json) : Option (Blueprint α) := do
  let names :=
    ["componentId", "name", "width", "height", "variantOptions", "defaultVariant", "children"]
  match ← Json.recordFields names json with
  | [componentId, name, width, height, variantOptions, defaultVariant, children] =>
      some
        { componentId := ← Json.required Json.asString? componentId
          name := ← Json.required Json.asString? name
          width := ← Json.required Scalar.ofJson? width
          height := ← Json.required Scalar.ofJson? height
          variantOptions :=
            ← Json.withDefault [] (Json.toDict? (Json.toList? Json.asString?)) variantOptions
          defaultVariant := ← Json.withDefault [] (Json.toDict? Json.asString?) defaultVariant
          children :=
            ← Json.withDefault [] (Json.toList? (BlueprintNode.ofJson Json.depthLimit)) children }
  | _ => none

end Reading

end DesignScene
