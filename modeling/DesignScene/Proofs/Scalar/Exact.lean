/-
This file says what the operations on sizes are on exact rationals.
-/
import DesignScene.Scalar.Exact
import Mathlib.Algebra.BigOperators.Group.List.Basic
import Mathlib.Algebra.Order.Ring.Rat
import Mathlib.Order.Lattice

namespace DesignScene

namespace Scalar

theorem ofNat_eq_cast (value : Nat) : (ofNat value : Rat) = value := Int.cast_natCast value

/-- A ratio of natural numbers is their quotient. -/
theorem ofRatio_eq (numerator denominator : Nat) :
    (ofRatio numerator denominator : Rat) = numerator / denominator := by
  rw [ofRatio, ofNat_eq_cast, ofNat_eq_cast]

/-- A count covers a value exactly if the value is not greater. -/
theorem ceilCount_le_iff {value : Rat} {count : Nat} :
    ceilCount value ≤ count ↔ value ≤ count := by
  show value.ceil.toNat ≤ count ↔ _
  rw [Int.toNat_le, Rat.ceil_le_iff, Int.cast_natCast]

/-- Of exact numbers the larger one is the maximum. -/
theorem larger_eq_max (first second : Rat) : larger first second = max first second := by
  rw [larger, max_def]
  grind

/-- Of exact numbers the smaller one is the minimum. -/
theorem smaller_eq_min (first second : Rat) : smaller first second = min first second := by
  rw [smaller, min_def]
  grind

theorem le_foldl_larger (start : Rat) (values : List Rat) :
    start ≤ values.foldl larger start ∧ ∀ value ∈ values, value ≤ values.foldl larger start := by
  induction values generalizing start with
  | nil => exact ⟨le_refl start, fun _ member => absurd member List.not_mem_nil⟩
  | cons first more ih =>
      obtain ⟨above, each⟩ := ih (larger start first)
      have both : start ≤ larger start first ∧ first ≤ larger start first := by
        rw [larger_eq_max]
        exact ⟨le_max_left start first, le_max_right start first⟩
      rw [List.foldl_cons]
      exact ⟨both.1.trans above, List.forall_mem_cons.mpr ⟨both.2.trans above, each⟩⟩

/-- The greatest value is at least every one of them. -/
theorem le_greatest {values : List Rat} {value : Rat} (member : value ∈ values) :
    value ≤ greatest values := (le_foldl_larger _ values).2 value member

/-- The greatest of some values is not negative, because it starts at zero. -/
theorem greatest_nonneg (values : List Rat) : 0 ≤ greatest values := (le_foldl_larger _ values).1

theorem atLeastZero_eq_max (value : Rat) : atLeastZero value = max 0 value := by
  rw [atLeastZero, ofNat_eq_cast, Nat.cast_zero, max_def]
  grind

/-- What is raised to zero is not negative. -/
theorem atLeastZero_nonneg (value : Rat) : 0 ≤ atLeastZero value := by
  rw [atLeastZero_eq_max]
  exact le_max_left 0 value

/-- The sum is that of the library. -/
theorem sum_eq_sum (values : List Rat) : sum values = values.sum := List.sum_eq_foldl.symm

/-- The greatest of one value is that value or zero. -/
theorem greatest_singleton (value : Rat) : greatest [value] = max 0 value := larger_eq_max 0 value

end Scalar

end DesignScene
