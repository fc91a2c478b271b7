/-
This file holds the properties of a component as they are authored.
-/
import DesignScene.Json.Basic
import DesignScene.Text.Basic
import DesignScene.Text.Case

namespace DesignScene

abbrev PropertyBag := Dict Json

/-- The keys that direct the layout of a component. -/
inductive LayoutKey where
  | horizontalSizing
  | layoutAlign
  | layoutGrow
  | minWidth
  | maxWidth
  | minHeight
  | maxHeight
deriving DecidableEq

namespace LayoutKey

def name : LayoutKey → String
  | horizontalSizing => "horizontalSizing"
  | layoutAlign => "layoutAlign"
  | layoutGrow => "layoutGrow"
  | minWidth => "minWidth"
  | maxWidth => "maxWidth"
  | minHeight => "minHeight"
  | maxHeight => "maxHeight"

def all : List LayoutKey :=
  [horizontalSizing, layoutAlign, layoutGrow, minWidth, maxWidth, minHeight, maxHeight]

/-- A key is recognized in any ASCII case. -/
def ofKey (key : String) : Option LayoutKey :=
  all.find? fun layoutKey => Text.equalIgnoringAsciiCase layoutKey.name key

end LayoutKey

namespace PropertyBag

def ofJson (json : Json) : Option PropertyBag := json.asObject?

def insertIfAbsent (key : String) (value : Json) (bag : PropertyBag) : PropertyBag :=
  if bag.hasKey key then bag else bag.insert key value

/-- The variants are added to the `variants` object, which replaces any other value there. -/
def mergeVariants (variants : Dict Json) (bag : PropertyBag) : PropertyBag :=
  let existing : Dict Json := ((bag.get? "variants").bind Json.asObject?).getD []
  bag.insert "variants" (.object (existing.overlay variants))

/-- Runs of blank characters inside a key become hyphens. -/
def sanitizeKey (key : String) : String := Text.joinWith "-" (Text.words key)

/-- Numbers and truth values under a key that speaks of text become text. -/
def sanitizeValue (key : String) (value : Json) : Json :=
  if Text.contains (Text.lower key) "text" then
    match value with
    | .number number => .string number.toText
    | .bool flag => .string (if flag then "true" else "false")
    | other => other
  else value

def sanitizeEntry (entry : String × Json) : String × Json :=
  let key := sanitizeKey entry.1
  (key, sanitizeValue key entry.2)

def sanitize (bag : PropertyBag) : PropertyBag := Dict.ofList (bag.map sanitizeEntry)

/-- Components of these types take a list of labels. -/
def takesLabels (componentType : String) : Bool :=
  Text.containsAny (Text.lower componentType) ["tab", "chip"]

def wrapLabel (key : String) (bag : PropertyBag) : PropertyBag :=
  match bag.get? key with
  | some (.string label) => bag.insert key (.array [.string label])
  | _ => bag

/-- A single label becomes a list of one where labels are taken. -/
def preprocess (componentType : String) (bag : PropertyBag) : PropertyBag :=
  if takesLabels componentType then wrapLabel "label" (wrapLabel "Label" bag) else bag

end PropertyBag

end DesignScene
