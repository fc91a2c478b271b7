/-
This file measures sizes in exact rationals.
-/
import DesignScene.Scalar.Basic

namespace DesignScene

/-- The value of a finite double; the others have none and read as zero. -/
def exactFloat (value : Float) : Rat :=
  if value.isFinite then
    let bits := value.toBits
    let exact := (Decimal.Binary.ofBits bits).exact
    let magnitude : Rat := exact.digits * (10 : Rat) ^ exact.exponent
    if bits >>> 63 == 1 then -magnitude else magnitude
  else 0

def exactNumeral : Decimal.Numeral → Option Rat
  | .finite negative digits exponent =>
      let magnitude : Rat := digits * (10 : Rat) ^ exponent
      some (if negative then -magnitude else magnitude)
  | _ => none

instance : Scalar Rat where
  decideLe := inferInstance
  decideLt := inferInstance
  ofInt value := value
  addUnit := 0
  ofFloat := exactFloat
  ofNumeral := exactNumeral
  ceilCount value := value.ceil.toNat

end DesignScene
