/-
This file writes JSON values as compact text.
-/
import DesignScene.Json.Basic

namespace DesignScene.Json

def hexDigit (value : Nat) : Char := Nat.digitChar value

/-- A control character without a short escape is written by its code. -/
def escapeChar (character : Char) : List Char :=
  if character == '"' then ['\\', '"']
  else if character == '\\' then ['\\', '\\']
  else if character == '\n' then ['\\', 'n']
  else if character == '\r' then ['\\', 'r']
  else if character == '\t' then ['\\', 't']
  else if character.toNat == 8 then ['\\', 'b']
  else if character.toNat == 12 then ['\\', 'f']
  else if character.toNat < 32 then
    ['\\', 'u', '0', '0', hexDigit (character.toNat / 16), hexDigit (character.toNat % 16)]
  else [character]

def stringChars (text : String) : List Char :=
  '"' :: text.toList.flatMap escapeChar ++ ['"']

mutual

def toChars : Json → List Char
  | .null => "null".toList
  | .bool value => (if value then "true" else "false").toList
  | .number value => value.toChars
  | .string value => stringChars value
  | .array [] => ['[', ']']
  | .array (element :: more) => '[' :: toChars element ++ elementsChars more
  | .object [] => ['{', '}']
  | .object ((name, value) :: more) =>
      '{' :: stringChars name ++ ':' :: toChars value ++ fieldsChars more

/-- The elements after the first one and the closing bracket. -/
def elementsChars : List Json → List Char
  | [] => [']']
  | element :: more => ',' :: toChars element ++ elementsChars more

def fieldsChars : List (String × Json) → List Char
  | [] => ['}']
  | (name, value) :: more => ',' :: stringChars name ++ ':' :: toChars value ++ fieldsChars more

end

/-- The compact text of a value, with the fields in the order of the list. -/
def toText (json : Json) : String := String.ofList json.toChars

end DesignScene.Json
