/-
This file reads JSON values as values of the types of this library.
-/
import DesignScene.Json.Parser

namespace DesignScene.Json

def occurrences (name : String) (fields : List (String × Json)) : List Json :=
  fields.filterMap fun field => if field.1 = name then some field.2 else none

/-- A field that is written twice makes the record unreadable. -/
def uniqueField (fields : List (String × Json)) (name : String) : Option (Option Json) :=
  match occurrences name fields with
  | [] => some none
  | [value] => some (some value)
  | _ => none

/-- The fields of a record by name from an object, or by place from an array. -/
def recordFields (names : List String) : Json → Option (List (Option Json))
  | .object fields => names.mapM (uniqueField fields)
  | .array elements =>
      if names.length < elements.length then none
      else some (elements.map some ++ List.replicate (names.length - elements.length) none)
  | _ => none

variable {α : Type}

def required (decode : Json → Option α) (field : Option Json) : Option α := field.bind decode

/-- An absent field and null are the same for an optional value. -/
def optional (decode : Json → Option α) : Option Json → Option (Option α)
  | none => some none
  | some .null => some none
  | some json => (decode json).map some

/-- Only an absent field takes the default. -/
def withDefault (value : α) (decode : Json → Option α) : Option Json → Option α
  | none => some value
  | some json => decode json

/-- A whole number that is written as an integer and is at most `greatest`. -/
def toNat? (greatest : Nat) : Json → Option Nat
  | .number (.int value) => if 0 ≤ value && value ≤ greatest then some value.toNat else none
  | _ => none

def toWord32? : Json → Option Nat := toNat? (UInt32.size - 1)

def toWord64? : Json → Option Nat := toNat? (UInt64.size - 1)

def toList? (decode : Json → Option α) : Json → Option (List α)
  | .array elements => elements.mapM decode
  | _ => none

def toDict? (decode : Json → Option α) : Json → Option (Dict α)
  | .object fields =>
      (fields.mapM fun field => (decode field.2).map fun value => (field.1, value)).map Dict.ofList
  | _ => none

/-- A name from a fixed list; the name may also stand as the only field of an object. -/
def toNamed? (named : String → Option α) : Json → Option α
  | .string name => named name
  | .object [(name, .null)] => named name
  | _ => none

end DesignScene.Json
