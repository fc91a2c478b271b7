/-
This file reads decimal numerals.
-/
import DesignScene.Decimal.Notation

namespace DesignScene.Decimal

/-- What a numeral stands for. -/
inductive Numeral where
  /-- The value `digits * 10 ^ exponent`, with its sign. -/
  | finite (negative : Bool) (digits : Nat) (exponent : Int)
  | infinite (negative : Bool)
  | notANumber
deriving DecidableEq

def digitValue (character : Char) : Nat := character.toNat - '0'.toNat

def ofDigitChars (characters : List Char) : Nat :=
  characters.foldl (fun number character => 10 * number + digitValue character) 0

/-- An optional sign and the rest. -/
def readSign : List Char → Bool × List Char
  | '+' :: rest => (false, rest)
  | '-' :: rest => (true, rest)
  | characters => (false, characters)

/-- An exponent is a mark, an optional sign and at least one digit. -/
def readExponent : List Char → Option Int
  | [] => some 0
  | mark :: rest =>
      if mark == 'e' || mark == 'E' then
        let (negative, digits) := readSign rest
        if digits.isEmpty || !digits.all Char.isDigit then none
        else
          let magnitude : Int := ofDigitChars digits
          some (if negative then -magnitude else magnitude)
      else none

/-- Digits with an optional point, at least one of them, and an optional exponent. -/
def readFinite (negative : Bool) (characters : List Char) : Option Numeral :=
  let whole := characters.takeWhile Char.isDigit
  let afterWhole := characters.dropWhile Char.isDigit
  let (fraction, rest) :=
    match afterWhole with
    | '.' :: more => (more.takeWhile Char.isDigit, more.dropWhile Char.isDigit)
    | _ => ([], afterWhole)
  if whole.isEmpty && fraction.isEmpty then none
  else
    (readExponent rest).map fun exponent =>
      .finite negative (ofDigitChars (whole ++ fraction)) (exponent - fraction.length)

/-- The named values are written in any case. -/
def readNamed (negative : Bool) (characters : List Char) : Option Numeral :=
  let name := characters.map Char.toLower
  if name == "nan".toList then some .notANumber
  else if name == "inf".toList || name == "infinity".toList then some (.infinite negative)
  else none

def readNumeral (text : String) : Option Numeral :=
  let (negative, characters) := readSign text.toList
  (readFinite negative characters).or (readNamed negative characters)

/-- A whole number with an optional plus sign. -/
def readWhole (text : String) : Option Nat :=
  let digits :=
    match text.toList with
    | '+' :: rest => rest
    | characters => characters
  if digits.isEmpty || !digits.all Char.isDigit then none else some (ofDigitChars digits)

/-- The quotient and the rest of a ratio that is divided by `2 ^ power`, and the divisor. -/
def quotientAt (numerator denominator : Nat) (power : Int) : Nat × Nat × Nat :=
  let dividend := numerator * twoTo (-power).toNat
  let divisor := denominator * twoTo power.toNat
  (dividend / divisor, dividend % divisor, divisor)

/-- The power of two that leaves 53 binary digits of a ratio, as far as doubles are that fine. -/
def nearestPower (numerator denominator : Nat) : Int :=
  let guess : Int := (Nat.log2 numerator : Int) - Nat.log2 denominator - 53
  let (quotient, _) := quotientAt numerator denominator guess
  max (if quotient < 2 * leadingBit then guess else guess + 1) (-1074)

/-- The bits of the double nearest to a ratio; of two such doubles the even one is taken. -/
def nearestBits (numerator denominator : Nat) : Nat :=
  let power := nearestPower numerator denominator
  let (quotient, rest, divisor) := quotientAt numerator denominator power
  let roundsUp := divisor < 2 * rest || (2 * rest == divisor && quotient % 2 == 1)
  let significand := if roundsUp then quotient + 1 else quotient
  min ((power + 1074).toNat * leadingBit + significand) (0x7FF * leadingBit)

def nearestFloat (numerator denominator : Nat) : Float :=
  if numerator == 0 then 0.0 else Float.ofBits (UInt64.ofNat (nearestBits numerator denominator))

/-- The double nearest to the numeral; beyond the greatest double it is infinite. -/
def Numeral.toFloat : Numeral → Float
  | .notANumber => 0.0 / 0.0
  | .infinite negative => if negative then -1.0 / 0.0 else 1.0 / 0.0
  | .finite negative digits exponent =>
      let leading : Int := digitCount digits + exponent
      let magnitude : Float :=
        if digits == 0 || leading < -400 then 0.0
        else if 400 < leading then 1.0 / 0.0
        else nearestFloat (digits * tenTo exponent.toNat) (tenTo (-exponent).toNat)
      if negative then -magnitude else magnitude

end DesignScene.Decimal
