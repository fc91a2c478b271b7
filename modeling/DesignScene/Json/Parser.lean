/-
This file reads JSON text.
-/
import DesignScene.Json.Literal

namespace DesignScene.Json

/-- The deepest nesting of arrays and objects that is read. -/
def depthLimit : Nat := 127

def isSpace (character : Char) : Bool :=
  character == ' ' || character == '\t' || character == '\n' || character == '\r'

def skipSpace (characters : List Char) : List Char := characters.dropWhile isSpace

/-- The rest of the text after a word it begins with. -/
def afterWord (word : String) (characters : List Char) : Option (List Char) :=
  if word.toList.isPrefixOf characters then some (characters.drop word.length) else none

/-- This number stands in for a string or an object that is written well but has no value. -/
def unreadable : Json := .number (.real (0.0 / 0.0))

mutual

/-- A value and the rest of the text; fields stay as they are written. -/
def readValue : Nat → Nat → List Char → Option (Json × List Char)
  | 0, _, _ => none
  | fuel + 1, depth, characters =>
      match skipSpace characters with
      | '{' :: rest =>
          match depth with
          | 0 => none
          | depth + 1 =>
              match skipSpace rest with
              | '}' :: rest => some (.object [], rest)
              | rest => readFields fuel depth (some []) rest
      | '[' :: rest =>
          match depth with
          | 0 => none
          | depth + 1 =>
              match skipSpace rest with
              | ']' :: rest => some (.array [], rest)
              | rest => readElements fuel depth [] rest
      | '"' :: rest =>
          (readStringAfter {} rest).map fun (text, rest) =>
            (text.elim unreadable .string, rest)
      | 'n' :: rest => (afterWord "ull" rest).map fun rest => (.null, rest)
      | 't' :: rest => (afterWord "rue" rest).map fun rest => (.bool true, rest)
      | 'f' :: rest => (afterWord "alse" rest).map fun rest => (.bool false, rest)
      | characters => (readNumber characters).map fun (literal, rest) => (.number literal, rest)

/-- The elements of an array in which those of `read` come first, in reverse. -/
def readElements : Nat → Nat → List Json → List Char → Option (Json × List Char)
  | 0, _, _, _ => none
  | fuel + 1, depth, read, characters => do
      let (element, rest) ← readValue fuel depth characters
      match skipSpace rest with
      | ',' :: rest => readElements fuel depth (element :: read) rest
      | ']' :: rest => some (.array (element :: read).reverse, rest)
      | _ => none

/-- The fields of an object; a name without a text makes the whole object unreadable. -/
def readFields :
    Nat → Nat → Option (List (String × Json)) → List Char → Option (Json × List Char)
  | 0, _, _, _ => none
  | fuel + 1, depth, read, characters =>
      match skipSpace characters with
      | '"' :: rest => do
          let (name, rest) ← readStringAfter {} rest
          match skipSpace rest with
          | ':' :: rest => do
              let (value, rest) ← readValue fuel depth rest
              let read := read.bind fun fields => name.map fun name => (name, value) :: fields
              match skipSpace rest with
              | ',' :: rest => readFields fuel depth read rest
              | '}' :: rest =>
                  some (read.elim unreadable fun fields => .object fields.reverse, rest)
              | _ => none
          | _ => none
      | _ => none

end

/-- The value of a text that is nested at most `depth` deep, as it is written. -/
def readText (depth : Nat) (text : String) : Option Json := do
  let characters := text.toList
  let (json, rest) ← readValue (2 * characters.length + 2) depth characters
  if (skipSpace rest).isEmpty then some json else none

/-- The value of a text as it is written, with repeated fields and with what is unreadable. -/
def parseWritten (text : String) : Option Json := readText text.length text

mutual

/-- Nothing in a value is unreadable, and no number is out of range. -/
def isReadable : Json → Bool
  | .number (.real value) => value.isFinite
  | .array elements => areReadable elements
  | .object fields => fieldsReadable fields
  | _ => true

def areReadable : List Json → Bool
  | [] => true
  | element :: more => isReadable element && areReadable more

def fieldsReadable : List (String × Json) → Bool
  | [] => true
  | (_, value) :: more => isReadable value && fieldsReadable more

end

mutual

/-- The fields are sorted by name, and of repeated fields the last one counts. -/
def normalize : Json → Json
  | .array elements => .array (normalizeElements elements)
  | .object fields => .object (normalizeFields [] fields)
  | json => json

def normalizeElements : List Json → List Json
  | [] => []
  | element :: more => normalize element :: normalizeElements more

def normalizeFields (sorted : Dict Json) : List (String × Json) → Dict Json
  | [] => sorted
  | (name, value) :: more => normalizeFields (sorted.insert name (normalize value)) more

end

def parse (text : String) : Option Json :=
  ((readText depthLimit text).filter isReadable).map normalize

end DesignScene.Json
