/-
This file says which operations on doubles give a number, and that any two numbers can be compared.
-/
import DesignScene.Proofs.Scalar.Finite

namespace DesignScene.Doubles

open Float.Model Float.Model.UnpackedFloat

section Packing

/-- A pattern of bits stands for no number if all bits of its exponent are set, and not only these. -/
theorem isNaN_unpack_iff {bits : BitVec Format.binary64.numBits} :
    (UnpackedFloat.unpack Format.binary64 bits).isNaN = true ↔
      unpackExponent bits = -1#11 ∧ unpackMantissa bits ≠ 0#52 := by
  unfold UnpackedFloat.unpack
  dsimp only
  split_ifs <;> simp_all [UnpackedFloat.isNaN]

/-- Packing makes a number of every number, be it infinite. -/
theorem isNaN_unpack_pack (value : UnpackedFloat) :
    (UnpackedFloat.unpack Format.binary64 (UnpackedFloat.pack Format.binary64 value)).isNaN =
      value.isNaN := by
  have ofInfinity (sign : Sign) : (UnpackedFloat.unpack Format.binary64
      (packedInfinity Format.binary64 sign)).isNaN = false := by
    apply Bool.eq_false_iff.mpr
    intro undefined
    exact (isNaN_unpack_iff.mp undefined).2 unpackMantissa_packComponents
  cases value with
  | infinity sign => exact ofInfinity sign
  | notANumber =>
      apply isNaN_unpack_iff.mpr
      show unpackExponent (packedNaN _) = _ ∧ unpackMantissa (packedNaN _) ≠ _
      rw [packedNaN, unpackExponent_packComponents, unpackMantissa_packComponents]
      decide
  | zero sign =>
      apply Bool.eq_false_iff.mpr
      intro undefined
      have ones := (isNaN_unpack_iff.mp undefined).1
      rw [UnpackedFloat.pack, packedZero, unpackExponent_packComponents] at ones
      revert ones
      decide
  | finite sign mantissa exponent positive =>
      have width : (2 : Nat) ^ Format.binary64.exponentBits = 2048 := rfl
      have all : (-1#11).toNat = 2047 := rfl
      unfold UnpackedFloat.pack
      dsimp only
      rw [width]
      split_ifs with large normal
      · exact ofInfinity sign
      · apply Bool.eq_false_iff.mpr
        intro undefined
        have ones := congrArg BitVec.toNat (isNaN_unpack_iff.mp undefined).1
        rw [unpackExponent_packComponents, BitVec.toNat_ofNat, Nat.mod_eq_of_lt (by omega),
          all] at ones
        omega
      · apply Bool.eq_false_iff.mpr
        intro undefined
        have ones := (isNaN_unpack_iff.mp undefined).1
        rw [unpackExponent_packComponents] at ones
        revert ones
        decide

end Packing

section Operations

/-- A finite double is a number. -/
theorem isNaN_of_isFinite {value : Float} (finite : value.isFinite = true) :
    value.isNaN = false := by
  have apart (number : UnpackedFloat) : number.isFinite = true → number.isNaN = false := by
    cases number <;> simp [UnpackedFloat.isFinite, UnpackedFloat.isNaN]
  exact apart _ finite

@[simp] theorem isNaN_neg (value : Float) : (-value).isNaN = value.isNaN := by
  have opposite (number : UnpackedFloat) : number.neg.isNaN = number.isNaN := by
    cases number <;> rfl
  exact (isNaN_unpack_pack _).trans (opposite _)

/-- Rounding never loses the number. -/
theorem isNaN_roundWithAccuracy (sign : Sign) (mantissa : Nat) (exponent : Int)
    (accuracy : Accuracy) :
    (roundWithAccuracy Format.binary64 sign mantissa exponent accuracy).isNaN = false := by
  unfold roundWithAccuracy
  dsimp only
  split <;> rfl

/-- The product of two finite numbers is a number. -/
theorem isNaN_mul {sign other : Sign} {mantissa factor : Nat} {exponent power : Int}
    {positive : 0 < mantissa} {factorPositive : 0 < factor} :
    (UnpackedFloat.mul Format.binary64 (.finite sign mantissa exponent positive)
      (.finite other factor power factorPositive)).isNaN = false :=
  isNaN_roundWithAccuracy _ _ _ _

theorem isNaN_ofScientific (number : Nat) :
    (UnpackedFloat.ofScientific Format.binary64 number 0).isNaN = false := by
  have range : (2 : Int) ^ Format.binary64.exponentBits = 2048 := rfl
  unfold UnpackedFloat.ofScientific
  by_cases zero : number = 0
  · rw [dif_pos zero]
    rfl
  · rw [dif_neg zero, if_neg (by rw [range]; decide), if_neg (by rw [range]; omega),
      if_pos le_rfl]
    exact isNaN_mul

/-- Every natural number is a number as a double. -/
theorem isNaN_ofNat (number : Nat) : (Float.ofNat number).isNaN = false := by
  show (Float.ofScientific number false 0).isNaN = false
  unfold Float.ofScientific
  split
  · exact isNaN_of_isFinite (isFinite_toFloat_mul_one number.toUInt64)
  · exact (isNaN_unpack_pack _).trans (isNaN_ofScientific number)

/-- Bits stand for no number exactly if all exponent bits and some mantissa bits are set. -/
theorem isNaN_ofBits_iff (bits : UInt64) :
    (Float.ofBits bits).isNaN = true ↔
      bits.toNat / 2 ^ 52 % 2 ^ 11 = 2047 ∧ bits.toNat % 2 ^ 52 ≠ 0 := by
  have kept : (Float.ofBits bits).isNaN =
      (UnpackedFloat.unpack Format.binary64 bits.toBitVec).isNaN :=
    isNaN_unpack_pack _
  have exponent : (@unpackExponent Format.binary64 bits.toBitVec).toNat =
      bits.toNat / 2 ^ 52 % 2 ^ 11 := by
    rw [unpackExponent, BitVec.toNat_cast, BitVec.extractLsb_toNat, Nat.shiftRight_eq_div_pow]
    rfl
  have mantissa : (@unpackMantissa Format.binary64 bits.toBitVec).toNat =
      bits.toNat % 2 ^ 52 := by
    rw [unpackMantissa, BitVec.toNat_cast, BitVec.extractLsb_toNat, Nat.shiftRight_zero]
    rfl
  rw [kept, isNaN_unpack_iff, Ne, ← BitVec.toNat_inj, ← BitVec.toNat_inj, exponent, mantissa]
  rfl

end Operations

section Order

/-- Comparing the other way round gives the opposite. -/
theorem compare_swap (first second : UnpackedFloat) :
    second.compare first = (first.compare second).map Ordering.swap := by
  cases first with
  | notANumber => cases second <;> rfl
  | infinity sign =>
      cases sign <;> rcases second with ⟨_ | _⟩ | _ | ⟨_ | _⟩ | ⟨_ | _⟩ <;> rfl
  | zero sign => rcases second with ⟨_ | _⟩ | _ | ⟨_ | _⟩ | ⟨_ | _⟩ <;> rfl
  | finite sign mantissa exponent =>
      have exponents (other : Int) : compare other exponent = (compare exponent other).swap :=
        Std.OrientedCmp.eq_swap
      have mantissas (other : Nat) : compare other mantissa = (compare mantissa other).swap :=
        Std.OrientedCmp.eq_swap
      cases sign <;> rcases second with ⟨_ | _⟩ | _ | ⟨_ | _⟩ | ⟨_ | _⟩ <;>
        simp [UnpackedFloat.compare, exponents, mantissas, Ordering.swap_then]

/-- What is no number cannot be compared, and all else can. -/
theorem isSome_compare_iff (first second : UnpackedFloat) :
    (first.compare second).isSome = true ↔ first.isNaN = false ∧ second.isNaN = false := by
  have same : (first.compare second).isSome = (!first.isNaN && !second.isNaN) := by
    rcases first with ⟨_ | _⟩ | _ | ⟨_ | _⟩ | ⟨_ | _⟩ <;>
      rcases second with ⟨_ | _⟩ | _ | ⟨_ | _⟩ | ⟨_ | _⟩ <;> rfl
  rw [same, Bool.and_eq_true, Bool.not_eq_true', Bool.not_eq_true']

/-- One double is less than another exactly if the comparison of their parts says so. -/
theorem lt_iff (first second : Float) :
    first < second ↔ first.toModel.unpack.compare second.toModel.unpack = some .lt := by
  show decide (UnpackedFloat.lt _ _ = true) = true ↔ _
  rw [decide_eq_true_iff, UnpackedFloat.lt, beq_iff_eq]

theorem le_iff (first second : Float) :
    first ≤ second ↔
      (first.toModel.unpack.compare second.toModel.unpack).any Ordering.isLE = true := by
  show decide (UnpackedFloat.le _ _ = true) = true ↔ _
  rw [decide_eq_true_iff, UnpackedFloat.le]

/-- The numbers are in a total order. -/
theorem le_of_not_lt {first second : Float} (known : first.isNaN = false)
    (otherKnown : second.isNaN = false) (notLess : ¬first < second) : second ≤ first := by
  obtain ⟨order, compared⟩ := Option.isSome_iff_exists.mp
    ((isSome_compare_iff first.toModel.unpack second.toModel.unpack).mpr ⟨known, otherKnown⟩)
  rw [lt_iff, compared] at notLess
  rw [le_iff, compare_swap, compared]
  cases order with
  | lt => exact absurd rfl notLess
  | eq => rfl
  | gt => rfl

/-- Only numbers can be compared. -/
theorem isNaN_of_compare {first second : UnpackedFloat} {order : Ordering}
    (compared : first.compare second = some order) :
    first.isNaN = false ∧ second.isNaN = false :=
  (isSome_compare_iff first second).mp (Option.isSome_of_eq_some compared)

theorem isNaN_of_lt {first second : Float} (less : first < second) :
    first.isNaN = false ∧ second.isNaN = false :=
  isNaN_of_compare ((lt_iff first second).mp less)

theorem isNaN_of_le {first second : Float} (notGreater : first ≤ second) :
    first.isNaN = false ∧ second.isNaN = false := by
  obtain ⟨order, compared, -⟩ := (Option.any_eq_true _ _).mp ((le_iff first second).mp notGreater)
  exact isNaN_of_compare compared

/-- The quotient of a number by a positive finite one is a number. -/
theorem isNaN_div {value divisor : Float} (finite : divisor.isFinite = true)
    (positive : 0.0 < divisor) : (value / divisor).isNaN = value.isNaN := by
  have quotient (number other : UnpackedFloat) (isFinite : other.isFinite = true)
      (above : (UnpackedFloat.zero .positive).compare other = some .lt) :
      (UnpackedFloat.div Format.binary64 number other).isNaN = number.isNaN := by
    cases other with
    | infinity => cases isFinite
    | notANumber => cases isFinite
    | zero => cases above
    | finite =>
        cases number with
        | finite => exact isNaN_roundWithAccuracy _ _ _ _
        | _ => rfl
  exact (isNaN_unpack_pack _).trans (quotient _ _ finite ((lt_iff 0.0 divisor).mp positive))

end Order

end DesignScene.Doubles
