/-
This file reads the number literals and the strings of JSON text.
-/
import DesignScene.Json.Basic
import DesignScene.Decimal.Numeral

namespace DesignScene.Json

/-- The greatest integer that a literal keeps exactly. -/
def greatestNat : Nat := UInt64.size - 1

/-- The digits that still fit a 64-bit number, and how many digits follow them. -/
def takeSignificand (significand : Nat) : List Char → Nat × Nat
  | [] => (significand, 0)
  | digit :: rest =>
      let next := 10 * significand + Decimal.digitValue digit
      if greatestNat < next then (significand, rest.length + 1)
      else takeSignificand next rest

/-- The greatest exponent of a power of ten that is a double. -/
def greatestExponent : Nat := 308

def tenTo (exponent : Nat) : Float := Decimal.nearestFloat (Decimal.tenTo exponent) 1

/-- This function scales in steps that are powers of ten of the double range. -/
def scaleFloat (fuel : Nat) (value : Float) (exponent : Int) : Float :=
  if exponent.natAbs ≤ greatestExponent then
    if 0 ≤ exponent then value * tenTo exponent.natAbs else value / tenTo exponent.natAbs
  else if value == 0.0 then value
  else if 0 ≤ exponent then 1.0 / 0.0
  else
    match fuel with
    | 0 => 0.0
    | fuel + 1 => scaleFloat fuel (value / tenTo greatestExponent) (exponent + greatestExponent)

def signedReal (negative : Bool) (magnitude : Float) : Number :=
  .real (if negative then -magnitude else magnitude)

/-- After three steps down every double is zero. A number out of range is infinite. -/
def scaledNumber (negative : Bool) (significand : Nat) (exponent : Int) : Number :=
  signedReal negative (scaleFloat 4 (Float.ofNat significand) exponent)

/-- An integer literal is kept as an integer if it fits 64 bits, and negative zero is a double. -/
def integerNumber (negative : Bool) (significand : Nat) : Number :=
  if !negative then .int significand
  else if significand == 0 || UInt64.size / 2 < significand then .real (-Float.ofNat significand)
  else .int (-(significand : Int))

/-- The digits after the mark and the sign of an exponent. -/
def readExponentDigits (negative : Bool) (significand : Nat) (start : Int)
    (negativeExponent : Bool) (digits : List Char) : Option Number :=
  let magnitude := Decimal.ofDigitChars digits
  if digits.isEmpty then none
  else if UInt32.size / 2 ≤ magnitude then
    some
      (signedReal negative (if significand != 0 && !negativeExponent then 1.0 / 0.0 else 0.0))
  else
    some
      (scaledNumber negative significand
        (if negativeExponent then start - magnitude else start + magnitude))

/-- The optional exponent of a literal and the rest of the text. -/
def readExponentPart (negative : Bool) (significand : Nat) (start : Int) (isInteger : Bool)
    (characters : List Char) : Option (Number × List Char) :=
  match characters with
  | mark :: rest =>
      if mark == 'e' || mark == 'E' then
        let (negativeExponent, rest) := Decimal.readSign rest
        (readExponentDigits negative significand start negativeExponent
            (rest.takeWhile Char.isDigit)).map fun number =>
          (number, rest.dropWhile Char.isDigit)
      else finish
  | [] => finish
where
  finish : Option (Number × List Char) :=
    some
      (if isInteger then integerNumber negative significand
        else scaledNumber negative significand start,
        characters)

/-- A fraction drops the digits that do not fit beside those before the point. -/
def readFractionPart (negative : Bool) (significand dropped : Nat)
    (characters : List Char) : Option (Number × List Char) :=
  match characters with
  | '.' :: rest =>
      let digits := rest.takeWhile Char.isDigit
      if digits.isEmpty then none
      else
        let (extended, ignored) := takeSignificand significand digits
        readExponentPart negative extended (dropped - (digits.length - ignored : Nat)) false
          (rest.dropWhile Char.isDigit)
  | _ => readExponentPart negative significand dropped (dropped == 0) characters

/-- A literal has no leading zero. -/
def readMagnitude (negative : Bool) (characters : List Char) : Option (Number × List Char) :=
  let digits := characters.takeWhile Char.isDigit
  let rest := characters.dropWhile Char.isDigit
  if digits.isEmpty || (digits.head? == some '0' && 1 < digits.length) then none
  else
    let (significand, dropped) := takeSignificand 0 digits
    readFractionPart negative significand dropped rest

def readNumber : List Char → Option (Number × List Char)
  | '-' :: rest => readMagnitude true rest
  | characters => readMagnitude false characters

def hexValue? (character : Char) : Option Nat :=
  if character.isDigit then some (character.toNat - '0'.toNat)
  else if 'a' ≤ character && character ≤ 'f' then some (character.toNat - 'a'.toNat + 10)
  else if 'A' ≤ character && character ≤ 'F' then some (character.toNat - 'A'.toNat + 10)
  else none

def readUnit (first second third fourth : Char) : Option Nat := do
  let first ← hexValue? first
  let second ← hexValue? second
  let third ← hexValue? third
  let fourth ← hexValue? fourth
  some (((first * 16 + second) * 16 + third) * 16 + fourth)

def isHighSurrogate (unit : Nat) : Bool := 0xD800 ≤ unit && unit ≤ 0xDBFF

def isLowSurrogate (unit : Nat) : Bool := 0xDC00 ≤ unit && unit ≤ 0xDFFF

def shortEscape? (character : Char) : Option Char :=
  match character with
  | '"' => some '"'
  | '\\' => some '\\'
  | '/' => some '/'
  | 'b' => some '\x08'
  | 'f' => some '\x0C'
  | 'n' => some '\n'
  | 'r' => some '\r'
  | 't' => some '\t'
  | _ => none

/-- The reversed characters of a string, if readable, and a high surrogate waiting for its low one. -/
structure StringState where
  read : Option (List Char) := some []
  pending : Option Nat := none

namespace StringState

def push (character : Char) (state : StringState) : StringState where
  read := if state.pending.isSome then none else state.read.map (character :: ·)

/-- Two surrogates stand for one character. -/
def joinSurrogates (high low : Nat) : Char :=
  Char.ofNat (0x10000 + (high - 0xD800) * 0x400 + (low - 0xDC00))

def pushUnit (unit : Nat) (state : StringState) : StringState :=
  match state.pending with
  | some high =>
      { read :=
          if isLowSurrogate unit then state.read.map (joinSurrogates high unit :: ·) else none }
  | none =>
      if isHighSurrogate unit then { state with pending := some unit }
      else { read := if isLowSurrogate unit then none else state.read.map (Char.ofNat unit :: ·) }

/-- A string with an unpaired surrogate has no text. -/
def text? (state : StringState) : Option String :=
  if state.pending.isSome then none
  else state.read.map fun characters => String.ofList characters.reverse

end StringState

/-- The text up to the closing quote, of which a part was read, and the rest. -/
def readStringAfter (state : StringState) : List Char → Option (Option String × List Char)
  | '"' :: rest => some (state.text?, rest)
  | '\\' :: 'u' :: first :: second :: third :: fourth :: rest => do
      let unit ← readUnit first second third fourth
      readStringAfter (state.pushUnit unit) rest
  | '\\' :: escape :: rest => do
      let character ← shortEscape? escape
      readStringAfter (state.push character) rest
  | character :: rest =>
      if character == '\\' || character.toNat < 32 then none
      else readStringAfter (state.push character) rest
  | [] => none

end DesignScene.Json
