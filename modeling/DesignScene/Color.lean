/-
This file reads the colors that authors write.
-/
import DesignScene.Text.Basic
import DesignScene.Json.Literal

namespace DesignScene

/-- A color with channels between zero and one. -/
structure Rgb where
  red : Float
  green : Float
  blue : Float

namespace Rgb

def black : Rgb := ⟨0.0, 0.0, 0.0⟩

/-- A channel that is not comparable stays as it is. -/
def clampChannel (value : Float) : Float :=
  if value < 0.0 then 0.0 else if 1.0 < value then 1.0 else value

def clamped (red green blue : Float) : Rgb :=
  ⟨clampChannel red, clampChannel green, clampChannel blue⟩

/-- Two hexadecimal digits, or a plus sign and one digit. -/
def readByte (first second : Char) : Option Nat :=
  if first == '+' then Json.hexValue? second
  else do
    let high ← Json.hexValue? first
    let low ← Json.hexValue? second
    some (16 * high + low)

def ofBytes (red green blue : Nat) : Rgb :=
  clamped (Float.ofNat red / 255.0) (Float.ofNat green / 255.0) (Float.ofNat blue / 255.0)

def ofHexPairs (red red' green green' blue blue' : Char) : Option Rgb := do
  let red ← readByte red red'
  let green ← readByte green green'
  let blue ← readByte blue blue'
  some (ofBytes red green blue)

/-- Three digits stand for six with each one doubled. -/
def ofHexDigits : List Char → Option Rgb
  | [red, green, blue] => ofHexPairs red red green green blue blue
  | [red, red', green, green', blue, blue'] => ofHexPairs red red' green green' blue blue'
  | _ => none

/-- A color of three or six hexadecimal digits after any number signs. -/
def ofHex (text : String) : Option Rgb :=
  ofHexDigits ((Text.trimChars text.toList).dropWhile (· == '#'))

/-- A channel, and whether it is a bare number. -/
structure Channel where
  value : Float
  bare : Bool

def Channel.ofText (text : String) : Option Channel :=
  let characters := Text.trimChars text.toList
  match characters.reverse with
  | '%' :: number =>
      (Decimal.readNumeral (String.ofList (Text.trimChars number.reverse))).map fun numeral =>
        ⟨numeral.toFloat / 100.0, false⟩
  | _ => (Decimal.readNumeral (String.ofList characters)).map fun numeral => ⟨numeral.toFloat, true⟩

def Channel.ofJson : Json → Option Channel
  | .number number => some ⟨number.toFloat, true⟩
  | .string text => Channel.ofText text
  | _ => none

def Channel.isByte (channel : Channel) : Bool := channel.bare && 1.0 < channel.value

def Channel.scaled (channel : Channel) (byteScale : Bool) : Float :=
  if byteScale && channel.bare then channel.value / 255.0 else channel.value

/-- If one bare channel is above one then all bare channels count up to 255. -/
def ofChannels (red green blue : Channel) : Rgb :=
  let byteScale := red.isByte || green.isByte || blue.isByte
  clamped (red.scaled byteScale) (green.scaled byteScale) (blue.scaled byteScale)

def startsWithSign (text : String) : Bool := (Text.trimChars text.toList).head? == some '#'

def ofJson : Json → Option Rgb
  | .string text => if startsWithSign text then ofHex text else none
  | .object fields => do
      let red ← (Dict.get? "r" fields).bind Channel.ofJson
      let green ← (Dict.get? "g" fields).bind Channel.ofJson
      let blue ← (Dict.get? "b" fields).bind Channel.ofJson
      some (ofChannels red green blue)
  | _ => none

def toJson (color : Rgb) : Json :=
  .object [("r", .ofFloat color.red), ("g", .ofFloat color.green), ("b", .ofFloat color.blue)]

end Rgb

/-- A color as an item refers to it. -/
inductive ColorRef where
  | rgb (color : Rgb)
  /-- The name of a token or a style. -/
  | named (name : String)

def ColorRef.ofJson (json : Json) : Option ColorRef :=
  match Rgb.ofJson json with
  | some color => some (.rgb color)
  | none =>
      match json with
      | .string text => if Text.isBlankText text then none else some (.named (Text.trim text))
      | _ => none

end DesignScene
