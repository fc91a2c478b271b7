/-
This file gives property keys and slot names the form in which they are compared.
-/
import DesignScene.Text.Case

namespace DesignScene.Text

def isSeparator (character : Char) : Bool :=
  isBlank character || character == '_' || character == '-'

/-- `started` says that a word was written, and `pending` that a separator follows it. -/
def normalizeChars (started pending : Bool) : List Char → List Char
  | [] => []
  | character :: rest =>
      if isSeparator character then normalizeChars started started rest
      else
        (if pending then ['-'] else []) ++
          (lowerChar character ++ normalizeChars true false rest)

/-- The words of a key in lower case, with one hyphen between two words. -/
def normalizeKey (text : String) : String :=
  String.ofList (normalizeChars false false text.toList)

end DesignScene.Text
