/-
This file holds the tokens and styles of a design system and looks colors up in them.
-/
import DesignScene.Color
import DesignScene.Scalar.Basic
import DesignScene.Json.Record
import DesignScene.Text.Case

namespace DesignScene

structure DesignToken where
  name : String
  collection : Option String
  tokenType : String
  value : Json

structure ColorStyle where
  name : String
  /-- A color in hexadecimal digits. -/
  color : String

structure TextStyle (α : Type) where
  name : String
  fontSize : Option α

structure DesignStyles (α : Type) where
  tokens : List DesignToken := []
  colorStyles : List ColorStyle := []
  textStyles : List (TextStyle α) := []

/-- Where a color was found. -/
inductive ColorSource where
  | designToken
  | colorStyle
  | raw

/-- The first value with this very name, else the first with the name in another case. -/
def findNamed {β : Type} (nameOf : β → String) (name : String) (values : List β) : Option β :=
  (values.find? fun value => nameOf value == name).or
    (values.find? fun value => Text.equalIgnoringAsciiCase (nameOf value) name)

def DesignToken.isColor (token : DesignToken) : Bool :=
  Text.equalIgnoringAsciiCase token.tokenType "COLOR"

def DesignToken.hasPath (path : String) (token : DesignToken) : Bool :=
  match token.collection with
  | some collection => collection ++ "/" ++ token.name == path
  | none => false

namespace DesignStyles

variable {α : Type}

/-- A color token is found by name, then by its collection and name. -/
def findToken (styles : DesignStyles α) (name : String) : Option DesignToken :=
  let colors := styles.tokens.filter DesignToken.isColor
  (findNamed DesignToken.name name colors).or (colors.find? (·.hasPath name))

def findColorStyle (styles : DesignStyles α) (name : String) : Option ColorStyle :=
  findNamed ColorStyle.name name styles.colorStyles

def findTextStyle (styles : DesignStyles α) (name : String) : Option (TextStyle α) :=
  findNamed TextStyle.name name styles.textStyles

/-- A name stands for a token, else for a color style, else for itself as a raw color. -/
def resolveColor (styles : DesignStyles α) (name : String) : Option (Rgb × ColorSource) :=
  match (styles.findToken name).bind fun token => Rgb.ofJson token.value with
  | some color => some (color, .designToken)
  | none =>
      match (styles.findColorStyle name).bind fun style => Rgb.ofHex style.color with
      | some color => some (color, .colorStyle)
      | none =>
          if Rgb.startsWithSign name then (Rgb.ofHex name).map fun color => (color, .raw)
          else none

end DesignStyles

def DesignToken.toJson (token : DesignToken) : Json :=
  .object
    [("name", .string token.name), ("collection", .ofOption .string token.collection),
      ("tokenType", .string token.tokenType), ("value", token.value)]

def DesignToken.ofJson (json : Json) : Option DesignToken := do
  match ← Json.recordFields ["name", "collection", "tokenType", "value"] json with
  | [name, collection, tokenType, value] =>
      some
        { name := ← Json.required Json.asString? name
          collection := ← Json.optional Json.asString? collection
          tokenType := ← Json.withDefault "COLOR" Json.asString? tokenType
          value := ← value }
  | _ => none

def ColorStyle.toJson (style : ColorStyle) : Json :=
  .object [("name", .string style.name), ("color", .string style.color)]

def ColorStyle.ofJson (json : Json) : Option ColorStyle := do
  match ← Json.recordFields ["name", "color"] json with
  | [name, color] =>
      some
        { name := ← Json.required Json.asString? name
          color := ← Json.required Json.asString? color }
  | _ => none

def TextStyle.toJson (style : TextStyle Float) : Json :=
  .object [("name", .string style.name), ("fontSize", .ofOption .ofFloat style.fontSize)]

def TextStyle.ofJson {α : Type} [Scalar α] (json : Json) : Option (TextStyle α) := do
  match ← Json.recordFields ["name", "fontSize"] json with
  | [name, fontSize] =>
      some
        { name := ← Json.required Json.asString? name
          fontSize := ← Json.optional Scalar.ofJson? fontSize }
  | _ => none

/-- Every list of styles may be left out. -/
def DesignStyles.ofJson {α : Type} [Scalar α] (json : Json) : Option (DesignStyles α) := do
  match ← Json.recordFields ["tokens", "colorStyles", "textStyles"] json with
  | [tokens, colorStyles, textStyles] =>
      some
        { tokens := ← Json.withDefault [] (Json.toList? DesignToken.ofJson) tokens
          colorStyles := ← Json.withDefault [] (Json.toList? ColorStyle.ofJson) colorStyles
          textStyles := ← Json.withDefault [] (Json.toList? TextStyle.ofJson) textStyles }
  | _ => none

end DesignScene
