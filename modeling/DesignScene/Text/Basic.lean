/-
This file cuts texts into pieces and searches them.
-/
import DesignScene.Text.CharSet

namespace DesignScene.Text

def trimStartChars (characters : List Char) : List Char :=
  characters.dropWhile isBlank

def trimEndWhile (drops : Char → Bool) (characters : List Char) : List Char :=
  (characters.reverse.dropWhile drops).reverse

def trimChars (characters : List Char) : List Char :=
  trimEndWhile isBlank (trimStartChars characters)

/-- The text without the blank characters at its two ends. -/
def trim (text : String) : String :=
  String.ofList (trimChars text.toList)

/-- The pieces between separators; a text without a separator is one piece. -/
def pieces (isSeparator : Char → Bool) : List Char → List (List Char)
  | [] => [[]]
  | character :: rest =>
      if isSeparator character then [] :: pieces isSeparator rest
      else
        match pieces isSeparator rest with
        | [] => [[character]]
        | piece :: more => (character :: piece) :: more

/-- The maximal runs of characters that are not blank. -/
def words (text : String) : List String :=
  ((pieces isBlank text.toList).filter fun piece => !piece.isEmpty).map String.ofList

/-- The part after the first place where `needle` stands. -/
def afterFirst (needle : List Char) : List Char → Option (List Char)
  | [] => if needle.isEmpty then some [] else none
  | character :: rest =>
      if needle.isPrefixOf (character :: rest) then
        some ((character :: rest).drop needle.length)
      else afterFirst needle rest

def containsChars (text needle : List Char) : Bool :=
  (afterFirst needle text).isSome

/-- The characters of `needle` stand next to each other somewhere in `text`. -/
def contains (text needle : String) : Bool :=
  containsChars text.toList needle.toList

def containsAny (text : String) (needles : List String) : Bool :=
  needles.any (contains text)

def endsWith (text ending : String) : Bool :=
  ending.toList.isSuffixOf text.toList

def isBlankText (text : String) : Bool :=
  text.toList.all isBlank

def joinWith (separator : String) (texts : List String) : String :=
  String.intercalate separator texts

end DesignScene.Text
