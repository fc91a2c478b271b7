/-
This file measures sizes in doubles.
-/
import DesignScene.Scalar.Basic

namespace DesignScene

/-- The least natural number that is not smaller than a double, at most that of 64 bits. -/
def ceilFloat (value : Float) : Nat :=
  let count := value.toUInt64.toNat
  if (Float.ofNat count < value) && count < UInt64.size - 1 then count + 1 else count

instance : Scalar Float where
  decideLe := inferInstance
  decideLt := inferInstance
  ofInt := Float.ofInt
  addUnit := -0.0
  ofFloat value := value
  ofNumeral numeral := some numeral.toFloat
  ceilCount := ceilFloat

end DesignScene
