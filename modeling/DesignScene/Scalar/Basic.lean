/-
This file says what sizes are measured in.
-/
import DesignScene.Json.Basic
import DesignScene.Decimal.Numeral

namespace DesignScene

/-- The operations on sizes. They run on doubles, and the exact rationals are a second reading. -/
class Scalar (α : Type) extends Add α, Sub α, Mul α, Div α, LE α, LT α where
  decideLe : DecidableLE α
  decideLt : DecidableLT α
  ofInt : Int → α
  /-- The start of a sum, which adding leaves every size as it is. -/
  addUnit : α
  ofFloat : Float → α
  ofNumeral : Decimal.Numeral → Option α
  /-- The least natural number that is not smaller. -/
  ceilCount : α → Nat

namespace Scalar

variable {α : Type} [Scalar α]

instance : DecidableLE α := decideLe

instance : DecidableLT α := decideLt

def ofNat (value : Nat) : α := ofInt value

def ofRatio (numerator denominator : Nat) : α := ofNat numerator / ofNat denominator

instance : Inhabited α := ⟨ofNat 0⟩

def ofNumber : Number → α
  | .int value => ofInt value
  | .real value => ofFloat value

/-- A size is written as a number, which is finite. -/
def ofJson? : Json → Option α
  | .number (.int value) => some (ofInt value)
  | .number (.real value) => if value.isFinite then some (ofFloat value) else none
  | _ => none

/-- The greater of two sizes; one that is not comparable gives way to the other. -/
def larger (first second : α) : α :=
  if first < second then second else if first ≤ first then first else second

def smaller (first second : α) : α :=
  if second < first then second else if first ≤ first then first else second

def sum (values : List α) : α := values.foldl (· + ·) addUnit

/-- The greatest of the values, and zero if none is greater than zero. -/
def greatest (values : List α) : α := values.foldl larger (ofNat 0)

/-- The nearest size between zero and one; what is not comparable stays as it is. -/
def clampUnit (value : α) : α :=
  if value < ofNat 0 then ofNat 0 else if ofNat 1 < value then ofNat 1 else value

/-- A size that is not comparable counts as zero. -/
def atLeastZero (value : α) : α := if ofNat 0 < value then value else ofNat 0

end Scalar

end DesignScene
