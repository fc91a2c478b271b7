/-
This file holds JSON values and the questions that are asked of them.
-/
import DesignScene.Dict
import DesignScene.Decimal.Notation

namespace DesignScene

/-- A number keeps whether it was written as an integer. -/
inductive Number where
  | int (value : Int)
  | real (value : Float)
deriving DecidableEq

/-- The choices of JSON text for doubles. -/
def jsonStyle : Decimal.Style where
  plainFrom := -5
  plainTo := 15
  exponentMark := 'e'
  exponentPlus := true

namespace Number

def toFloat : Number → Float
  | .int value => Float.ofInt value
  | .real value => value

/-- A double that is not finite has no JSON number. -/
def toChars : Number → List Char
  | .int value => (toString value).toList
  | .real value =>
      if value.isFinite then Decimal.floatChars jsonStyle value else "null".toList

def toText (number : Number) : String := String.ofList number.toChars

end Number

/-- The fields of an object that was read are sorted by name. -/
inductive Json where
  | null
  | bool (value : Bool)
  | number (value : Number)
  | string (value : String)
  | array (elements : List Json)
  | object (fields : List (String × Json))
deriving Inhabited

namespace Json

def asBool? : Json → Option Bool
  | .bool value => some value
  | _ => none

def asNumber? : Json → Option Number
  | .number value => some value
  | _ => none

def asString? : Json → Option String
  | .string value => some value
  | _ => none

def asArray? : Json → Option (List Json)
  | .array elements => some elements
  | _ => none

def asObject? : Json → Option (Dict Json)
  | .object fields => some fields
  | _ => none

def isNull : Json → Bool
  | .null => true
  | _ => false

def isObject (json : Json) : Bool := json.asObject?.isSome

def isBool (json : Json) : Bool := json.asBool?.isSome

/-- The field of an object; any other value has none. -/
def field? (name : String) (json : Json) : Option Json :=
  json.asObject?.bind (Dict.get? name)

/-- A natural number as a JSON number. -/
def ofNat (value : Nat) : Json := .number (.int value)

def ofFloat (value : Float) : Json := .number (.real value)

/-- An absent value is written as null. -/
def ofOption {α : Type} (encode : α → Json) : Option α → Json
  | none => .null
  | some value => encode value

def ofList {α : Type} (encode : α → Json) (values : List α) : Json :=
  .array (values.map encode)

def ofDict {α : Type} (encode : α → Json) (dict : Dict α) : Json :=
  .object (dict.map fun pair => (pair.1, encode pair.2))

end Json

end DesignScene
