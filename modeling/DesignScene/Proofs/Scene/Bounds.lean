/-
This file says what bounds do to exact sizes.
-/
import DesignScene.Layout.Directive
import DesignScene.Proofs.Scalar.Exact

namespace DesignScene

/-- The size keeps the bounds that there are. -/
structure IsWithin (least greatest : Option Rat) (size : Rat) : Prop where
  least_le : ∀ bound ∈ least, bound ≤ size
  le_greatest : ∀ bound ∈ greatest, size ≤ bound

/-- Bounds that do not cross are kept by every size that was bounded. -/
theorem isWithin_clampBetween {least greatest : Option Rat}
    (ordered : ∀ lower ∈ least, ∀ upper ∈ greatest, lower ≤ upper) (size : Rat) :
    IsWithin least greatest (clampBetween least greatest size) := by
  constructor
  · rintro lower ⟨⟩
    rw [clampBetween, Option.elim_some, Scalar.larger_eq_max]
    exact le_max_right _ _
  · rintro upper ⟨⟩
    rw [clampBetween, Option.elim_some, Scalar.smaller_eq_min]
    cases least with
    | none =>
        rw [Option.elim_none]
        exact min_le_right _ _
    | some lower =>
        rw [Option.elim_some, Scalar.larger_eq_max]
        exact max_le (min_le_right _ _) (ordered lower rfl upper rfl)

namespace SizeConstraints

/-- No lower bound is above the upper one. -/
structure Ordered (constraints : SizeConstraints Rat) : Prop where
  width : ∀ least ∈ constraints.minWidth, ∀ greatest ∈ constraints.maxWidth, least ≤ greatest
  height : ∀ least ∈ constraints.minHeight, ∀ greatest ∈ constraints.maxHeight, least ≤ greatest

variable (constraints : SizeConstraints Rat)

def AdmitsWidth (width : Rat) : Prop := IsWithin constraints.minWidth constraints.maxWidth width

def AdmitsHeight (height : Rat) : Prop :=
  IsWithin constraints.minHeight constraints.maxHeight height

variable {constraints}

/-- A clamped width keeps the bounds. -/
theorem Ordered.admitsWidth_clampWidth (ordered : constraints.Ordered) (width : Rat) :
    constraints.AdmitsWidth (constraints.clampWidth width) :=
  isWithin_clampBetween ordered.width width

/-- A clamped height keeps the bounds. -/
theorem Ordered.admitsHeight_clampHeight (ordered : constraints.Ordered) (height : Rat) :
    constraints.AdmitsHeight (constraints.clampHeight height) :=
  isWithin_clampBetween ordered.height height

/-- Without bounds every width is kept. -/
theorem clampWidth_of_isEmpty (unbounded : constraints.isEmpty = true) (width : Rat) :
    constraints.clampWidth width = width := by
  simp only [isEmpty, Bool.and_eq_true, Option.isNone_iff_eq_none] at unbounded
  obtain ⟨⟨⟨noLeast, noGreatest⟩, -⟩, -⟩ := unbounded
  rw [clampWidth, clampBetween, noLeast, noGreatest, Option.elim_none, Option.elim_none]

theorem clampHeight_of_isEmpty (unbounded : constraints.isEmpty = true) (height : Rat) :
    constraints.clampHeight height = height := by
  simp only [isEmpty, Bool.and_eq_true, Option.isNone_iff_eq_none] at unbounded
  obtain ⟨⟨-, noLeast⟩, noGreatest⟩ := unbounded
  rw [clampHeight, clampBetween, noLeast, noGreatest, Option.elim_none, Option.elim_none]

end SizeConstraints

end DesignScene
