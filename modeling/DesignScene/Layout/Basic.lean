/-
This file holds the settings of auto layout and reads them from authored fields.
-/
import DesignScene.Scalar.Basic
import DesignScene.Text.Basic
import DesignScene.Text.Case

namespace DesignScene

/-- The direction in which a frame places its children. -/
inductive LayoutMode where
  | none
  | horizontal
  | vertical
deriving DecidableEq

inductive SizingMode where
  | fixed
  | auto
deriving DecidableEq

inductive HorizontalSizing where
  | fill
  | hug
  | auto
  | fixed
deriving DecidableEq

inductive LayoutAlign where
  | inherit
  | stretch
  | min
  | center
  | max
deriving DecidableEq

inductive TextAlign where
  | left
  | center
  | right
deriving DecidableEq

inductive ItemSpacing (α : Type) where
  | fixed (gap : α)
  /-- The free space is spread between the children. -/
  | auto

structure Padding (α : Type) where
  top : α
  right : α
  bottom : α
  left : α

structure SizeConstraints (α : Type) where
  minWidth : Option α := none
  maxWidth : Option α := none
  minHeight : Option α := none
  maxHeight : Option α := none

namespace LayoutMode

def name : LayoutMode → String
  | none => "NONE"
  | horizontal => "HORIZONTAL"
  | vertical => "VERTICAL"

def all : List LayoutMode := [none, horizontal, vertical]

/-- A mode is written in capital letters. -/
def ofText (text : String) : Option LayoutMode := all.find? (·.name == text)

def isAutoLayout (mode : LayoutMode) : Bool := mode != none

end LayoutMode

namespace SizingMode

def name : SizingMode → String
  | fixed => "FIXED"
  | auto => "AUTO"

/-- Hugging is another word for automatic sizing, and case does not count. -/
def ofText (text : String) : Option SizingMode :=
  match Text.upper text with
  | "FIXED" => some fixed
  | "AUTO" => some auto
  | "HUG" => some auto
  | _ => none

end SizingMode

namespace HorizontalSizing

def name : HorizontalSizing → String
  | fill => "FILL"
  | hug => "HUG"
  | auto => "AUTO"
  | fixed => "FIXED"

def all : List HorizontalSizing := [fill, hug, auto, fixed]

def ofText (text : String) : Option HorizontalSizing := all.find? (·.name == Text.upper text)

end HorizontalSizing

namespace LayoutAlign

def name : LayoutAlign → String
  | inherit => "INHERIT"
  | stretch => "STRETCH"
  | min => "MIN"
  | center => "CENTER"
  | max => "MAX"

def all : List LayoutAlign := [inherit, stretch, min, center, max]

def ofText (text : String) : Option LayoutAlign := all.find? (·.name == Text.upper text)

end LayoutAlign

namespace TextAlign

def name : TextAlign → String
  | left => "LEFT"
  | center => "CENTER"
  | right => "RIGHT"

/-- Every other word means the left side. -/
def ofText (text : String) : TextAlign :=
  match Text.lower text with
  | "center" => center
  | "right" => right
  | _ => left

end TextAlign

section Sizes

variable {α : Type} [Scalar α]

def Padding.zero : Padding α :=
  ⟨Scalar.ofNat 0, Scalar.ofNat 0, Scalar.ofNat 0, Scalar.ofNat 0⟩

def Padding.horizontal (padding : Padding α) : α := padding.left + padding.right

def Padding.vertical (padding : Padding α) : α := padding.top + padding.bottom

def ItemSpacing.zero : ItemSpacing α := .fixed (Scalar.ofNat 0)

/-- The gap that is left between children before free space is spread. -/
def ItemSpacing.gap : ItemSpacing α → α
  | .fixed gap => gap
  | .auto => Scalar.ofNat 0

/-- The lower bound wins over the upper one. -/
def clampBetween (least greatest : Option α) (value : α) : α :=
  let capped := greatest.elim value (Scalar.smaller value)
  least.elim capped (Scalar.larger capped)

def SizeConstraints.clampWidth (constraints : SizeConstraints α) (width : α) : α :=
  clampBetween constraints.minWidth constraints.maxWidth width

def SizeConstraints.clampHeight (constraints : SizeConstraints α) (height : α) : α :=
  clampBetween constraints.minHeight constraints.maxHeight height

end Sizes

/-- The text without any number of units at its end. -/
def dropUnits (characters : List Char) : List Char :=
  (dropReversed characters.reverse).reverse
where
  dropReversed : List Char → List Char
    | 'x' :: 'p' :: rest => dropReversed rest
    | rest => rest

/-- A size is a number, or the text of a number with or without its unit. -/
def readSize {α : Type} [Scalar α] : Json → Option α
  | .number number => some (Scalar.ofNumber number)
  | .string text =>
      (Decimal.readNumeral (String.ofList (dropUnits (Text.trimChars text.toList)))).bind
        Scalar.ofNumeral
  | _ => none

/-- The first of the named fields that holds a usable value. -/
def firstField {β : Type} (read : Json → Option β) (names : List String)
    (fields : Dict Json) : Option β :=
  names.findSome? fun name => (fields.get? name).bind read

def sizeField {α : Type} [Scalar α] (names : List String) (fields : Dict Json) : Option α :=
  firstField readSize names fields

def textField (names : List String) (fields : Dict Json) : Option String :=
  firstField Json.asString? names fields

end DesignScene
