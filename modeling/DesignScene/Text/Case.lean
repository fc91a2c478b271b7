/-
This file maps characters and whole texts to lower and upper case.
-/
import DesignScene.Text.CaseTable
import DesignScene.Text.CharSet

namespace DesignScene.Text

/-- The lower-case form of one character, which looks at no neighbour. -/
def lowerChar (character : Char) : List Char :=
  if character.toNat < 128 then [character.toLower]
  else if character == 'İ' then ['i', '\u0307']
  else
    match lowerShifts.find? (·.covers character.toNat) with
    | some shift => [shift.apply character.toNat]
    | none => [character]

def upperChar (character : Char) : List Char :=
  if character.toNat < 128 then [character.toUpper]
  else
    match upperExpansions.find? (·.1 == character.toNat) with
    | some expansion => expansion.2.map Char.ofNat
    | none =>
        match upperShifts.find? (·.covers character.toNat) with
        | some shift => [shift.apply character.toNat]
        | none => [character]

/-- The first character that case rules do not skip is a cased one. -/
def reachesCased (characters : List Char) : Bool :=
  match characters.dropWhile isCaseIgnorable with
  | [] => false
  | character :: _ => isCased character

/-- A capital sigma ends a word when a cased character stands before it and none after it. -/
def lowerCharsAfter (before : List Char) : List Char → List Char
  | [] => []
  | character :: rest =>
      let form :=
        if character == 'Σ' then
          if reachesCased before && !reachesCased rest then ['ς'] else ['σ']
        else lowerChar character
      form ++ lowerCharsAfter (character :: before) rest

/-- The lower-case form of a whole text, with the final form of sigma at the end of a word. -/
def lower (text : String) : String :=
  String.ofList (lowerCharsAfter [] text.toList)

def upper (text : String) : String :=
  String.ofList (text.toList.flatMap upperChar)

def lowerAsciiChars (characters : List Char) : List Char :=
  characters.map Char.toLower

/-- Two texts agree up to the case of the letters A to Z. -/
def equalIgnoringAsciiCase (first second : String) : Bool :=
  lowerAsciiChars first.toList == lowerAsciiChars second.toList

end DesignScene.Text
