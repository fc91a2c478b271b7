/-
This file lays out the digits of a double as text.
-/
import DesignScene.Decimal.Shortest

namespace DesignScene.Decimal

/-- The choices of a written form. -/
structure Style where
  /-- The leading digits with an exponent from here on are written in place. -/
  plainFrom : Int
  /-- The last exponent that is written in place. -/
  plainTo : Int
  exponentMark : Char
  /-- A positive exponent has a plus sign. -/
  exponentPlus : Bool

def zeros (count : Nat) : List Char := List.replicate count '0'

def digitChars (number : Nat) : List Char := Nat.toDigits 10 number

def exponentChars (style : Style) (exponent : Int) : List Char :=
  let sign := if exponent < 0 then ['-'] else if style.exponentPlus then ['+'] else []
  style.exponentMark :: sign ++ digitChars exponent.natAbs

/-- The text of a positive value; a whole number in place ends with `.0`. -/
def Digits.toChars (style : Style) (decimal : Digits) : List Char :=
  let digits := digitChars decimal.digits
  let leading : Int := digits.length - 1 + decimal.exponent
  if style.plainFrom ≤ leading && leading ≤ style.plainTo then
    if 0 ≤ decimal.exponent then
      digits ++ zeros decimal.exponent.toNat ++ ['.', '0']
    else if 0 ≤ leading then
      digits.take (leading.toNat + 1) ++ '.' :: digits.drop (leading.toNat + 1)
    else '0' :: '.' :: zeros (-leading - 1).toNat ++ digits
  else
    match digits with
    | [digit] => digit :: exponentChars style leading
    | digit :: more => digit :: '.' :: more ++ exponentChars style leading
    | [] => []

/-- The text of a finite double. -/
def floatChars (style : Style) (value : Float) : List Char :=
  let bits := value.toBits
  let sign := if bits >>> 63 == 1 then ['-'] else []
  let magnitude := Binary.ofBits bits
  if magnitude.significand == 0 then sign ++ ['0', '.', '0']
  else sign ++ magnitude.shortest.toChars style

end DesignScene.Decimal
