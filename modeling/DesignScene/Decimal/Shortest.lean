/-
This file finds the fewest decimal digits that read back as a given double.
-/

namespace DesignScene.Decimal

def twoTo (exponent : Nat) : Nat := Nat.pow 2 exponent

def fiveTo (exponent : Nat) : Nat := Nat.pow 5 exponent

def tenTo (exponent : Nat) : Nat := Nat.pow 10 exponent

/-- The first of the 53 binary digits of a double. -/
def leadingBit : Nat := twoTo 52

/-- The value `significand * 2 ^ power`. -/
structure Binary where
  significand : Nat
  power : Int
  /-- The gap to the value below is half the gap to the value above. -/
  narrowBelow : Bool

/-- The absolute value of the finite double with these bits. -/
def Binary.ofBits (bits : UInt64) : Binary :=
  let exponent := ((bits >>> 52) &&& 0x7FF).toNat
  let fraction := (bits &&& 0xFFFFFFFFFFFFF).toNat
  if exponent == 0 then ⟨fraction, -1074, false⟩
  else ⟨leadingBit + fraction, exponent - 1075, fraction == 0 && 1 < exponent⟩

/-- The value `digits * 10 ^ exponent`. -/
structure Digits where
  digits : Nat
  exponent : Int
deriving DecidableEq

/-- This function compares `digits * 10 ^ exponent` with `significand * 2 ^ power`. -/
def compareScaled (decimal : Digits) (significand : Nat) (power : Int) : Ordering :=
  compare (decimal.digits * tenTo decimal.exponent.toNat * twoTo (-power).toNat)
    (significand * twoTo power.toNat * tenTo (-decimal.exponent).toNat)

/-- The decimal lies among the reals that round to the double, ends included for an even one. -/
def Binary.readsBack (value : Binary) (decimal : Digits) : Bool :=
  let below := if value.narrowBelow then 4 * value.significand - 1 else 4 * value.significand - 2
  let above := 4 * value.significand + 2
  let even := value.significand % 2 == 0
  let fromBelow := compareScaled decimal below (value.power - 2)
  let fromAbove := compareScaled decimal above (value.power - 2)
  (fromBelow == .gt || (even && fromBelow == .eq)) &&
    (fromAbove == .lt || (even && fromAbove == .eq))

/-- Every double is a decimal: a factor `1 / 2` is a factor `5 / 10`. -/
def Binary.exact (value : Binary) : Digits :=
  ⟨value.significand * twoTo value.power.toNat * fiveTo (-value.power).toNat,
    -((-value.power).toNat : Int)⟩

/-- The number of digits of a positive number. -/
def digitCount (number : Nat) : Nat := (Nat.toDigits 10 number).length

/-- The nearer of the two neighbours of the value on the grid `10 ^ exponent` that read back. -/
def Binary.onGrid (value : Binary) (exponent : Int) : Option Digits :=
  let exact := value.exact
  let shift := exponent - exact.exponent
  let scaled := exact.digits * tenTo (-shift).toNat
  let unit := tenTo shift.toNat
  let low : Digits := ⟨scaled / unit, exponent⟩
  let high : Digits := ⟨scaled / unit + 1, exponent⟩
  match value.readsBack low, value.readsBack high with
  | false, false => none
  | true, false => some low
  | false, true => some high
  | true, true =>
      match compare (2 * (scaled % unit)) unit with
      | .lt => some low
      | .gt => some high
      | .eq => some (if low.digits % 2 == 0 then low else high)

def stripZeros (fuel : Nat) (decimal : Digits) : Digits :=
  match fuel with
  | 0 => decimal
  | fuel + 1 =>
      if decimal.digits % 10 == 0 && decimal.digits != 0 then
        stripZeros fuel ⟨decimal.digits / 10, decimal.exponent + 1⟩
      else decimal

/-- The shortest decimal that reads back as the value, which must not be zero. -/
def Binary.shortest (value : Binary) : Digits :=
  let exact := value.exact
  let leading : Int := digitCount exact.digits - 1 + exact.exponent
  let found := (List.range 17).findSome? fun (more : Nat) => value.onGrid (leading - more)
  stripZeros 800 (found.getD exact)

end DesignScene.Decimal
