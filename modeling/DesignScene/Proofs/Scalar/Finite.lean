/-
This file says which operations on doubles give a finite one.
-/
import Mathlib
import DesignScene.Scalar.Double

namespace DesignScene.Doubles

open Float.Model Float.Model.UnpackedFloat

/-- The number is zero or a multiple of a power of two that is no greater than this one. -/
inductive UnitAtMost (greatest : Int) : UnpackedFloat → Prop where
  | zero (sign : Sign) : UnitAtMost greatest (.zero sign)
  | finite {sign : Sign} {mantissa : Nat} {exponent : Int} {positive : 0 < mantissa}
      (small : exponent ≤ greatest) :
      UnitAtMost greatest (.finite sign mantissa exponent positive)

/-- The unit of the greatest doubles is `2 ^ 971`, and the least unit is `2 ^ -1074`. -/
def greatestUnit : Int := 971

/-- A value with a bounded unit is finite. -/
theorem UnitAtMost.isFinite {greatest : Int} {value : UnpackedFloat}
    (bounded : UnitAtMost greatest value) : value.isFinite = true := by
  cases bounded <;> rfl

section Packing

variable {bits : BitVec Format.binary64.numBits} {value : UnpackedFloat} {greatest : Int}

/-- A pattern of bits is finite unless all bits of its exponent are set. -/
theorem isFinite_unpack_iff :
    (UnpackedFloat.unpack Format.binary64 bits).isFinite = true ↔
      unpackExponent bits ≠ -1#11 := by
  unfold UnpackedFloat.unpack
  dsimp only
  split_ifs with infinite zero small zero <;> simp_all [UnpackedFloat.isFinite]

/-- The unit of finite bits is bounded by their exponent. -/
theorem unitAtMost_unpack (finite : unpackExponent bits ≠ -1#11) (least : -1074 ≤ greatest)
    (below : ((unpackExponent bits).toNat : Int) ≤ greatest + 1075) :
    UnitAtMost greatest (UnpackedFloat.unpack Format.binary64 bits) := by
  have bias : ((Format.binary64.exponentBias : Nat) : Int) + (52 : Nat) = 1075 := rfl
  unfold UnpackedFloat.unpack
  dsimp only
  rw [if_neg finite, bias]
  split_ifs with small zero
  · exact .zero _
  · refine .finite ?_
    rw [small]
    exact least
  · exact .finite (by omega)

/-- The unit of a finite double is not too great. -/
theorem unitAtMost_of_isFinite
    (finite : (UnpackedFloat.unpack Format.binary64 bits).isFinite = true) :
    UnitAtMost greatestUnit (UnpackedFloat.unpack Format.binary64 bits) := by
  have notOnes := isFinite_unpack_iff.mp finite
  refine unitAtMost_unpack notOnes (by decide) ?_
  have apart : (unpackExponent bits).toNat ≠ (-1#11).toNat := fun same =>
    notOnes (BitVec.eq_of_toNat_eq same)
  have size : (unpackExponent bits).toNat < 2 ^ 11 := BitVec.isLt _
  have ones : (-1#11).toNat = 2047 := rfl
  unfold greatestUnit
  omega

/-- The significant bits of a pattern of bits are 53 at most. -/
theorem mantissa_lt_of_unpack {sign : Sign} {mantissa : Nat} {exponent : Int}
    {positive : 0 < mantissa}
    (unpacked : UnpackedFloat.unpack Format.binary64 bits =
      .finite sign mantissa exponent positive) : mantissa < 2 ^ 53 := by
  unfold UnpackedFloat.unpack at unpacked
  dsimp only at unpacked
  split_ifs at unpacked
  · obtain ⟨-, same, -⟩ := UnpackedFloat.finite.inj unpacked
    rw [← same]
    exact lt_trans (BitVec.isLt _) (by norm_num)
  · obtain ⟨-, same, -⟩ := UnpackedFloat.finite.inj unpacked
    rw [← same]
    exact BitVec.isLt _

/-- A number that is not too great is packed with an exponent that tells its unit. -/
theorem unpackExponent_pack (most : greatest ≤ greatestUnit)
    (bounded : UnitAtMost greatest value) :
    unpackExponent (UnpackedFloat.pack Format.binary64 value) ≠ -1#11 ∧
      (unpackExponent (UnpackedFloat.pack Format.binary64 value)).toNat ≤
        (greatest + 1075).toNat := by
  cases bounded with
  | zero sign => simp [UnpackedFloat.pack, packedZero]
  | @finite sign mantissa exponent positive small =>
      have bias : ((Format.binary64.exponentBias : Nat) : Int) = 1023 := rfl
      have fits : (exponent + 1023 + (52 : Nat)).toNat < 2047 := by
        unfold greatestUnit at most
        omega
      unfold UnpackedFloat.pack
      dsimp only
      rw [bias, if_neg (by omega)]
      split_ifs with normal
      · rw [unpackExponent_packComponents]
        refine ⟨fun ones => ?_, ?_⟩
        · have same := congrArg BitVec.toNat ones
          rw [BitVec.toNat_ofNat, Nat.mod_eq_of_lt (by omega)] at same
          exact absurd same (by simpa using by omega)
        · rw [BitVec.toNat_ofNat, Nat.mod_eq_of_lt (by omega)]
          omega
      · rw [unpackExponent_packComponents]
        exact ⟨by decide, Nat.zero_le _⟩

/-- Packing keeps the unit of a number, or its least unit if the number is smaller. -/
theorem unitAtMost_unpack_pack (least : -1074 ≤ greatest) (most : greatest ≤ greatestUnit)
    (bounded : UnitAtMost greatest value) :
    UnitAtMost greatest
      (UnpackedFloat.unpack Format.binary64 (UnpackedFloat.pack Format.binary64 value)) := by
  obtain ⟨finite, below⟩ := unpackExponent_pack most bounded
  exact unitAtMost_unpack finite least (by omega)

/-- Packing keeps whether a number is finite if the finite ones are not too great. -/
theorem isFinite_unpack_pack (bounded : value.isFinite = true → UnitAtMost greatestUnit value) :
    (UnpackedFloat.unpack Format.binary64 (UnpackedFloat.pack Format.binary64 value)).isFinite =
      value.isFinite := by
  cases value with
  | infinity sign =>
      refine Bool.eq_false_iff.mpr fun finite => isFinite_unpack_iff.mp finite ?_
      exact unpackExponent_packComponents
  | notANumber =>
      refine Bool.eq_false_iff.mpr fun finite => isFinite_unpack_iff.mp finite ?_
      exact unpackExponent_packComponents
  | zero sign => exact (unitAtMost_unpack_pack (by decide) le_rfl (bounded rfl)).isFinite
  | finite => exact (unitAtMost_unpack_pack (by decide) le_rfl (bounded rfl)).isFinite

end Packing

section Rounding

/-- Shifting a mantissa to the right divides it by a power of two. -/
theorem mantissa_shiftRight (extended : ExtendedMantissa) (count : Nat) :
    (extended >>> count).mantissa = extended.mantissa / 2 ^ count := by
  induction count with
  | zero => simp [HShiftRight.hShiftRight, Nat.repeat]
  | succ count ih =>
      show (extended >>> count).mantissa / 2 = _
      rw [ih, Nat.div_div_eq_div_mul, Nat.pow_succ]

/-- Rounding adds one to a mantissa at most. -/
theorem roundedMantissa_le (extended : ExtendedMantissa) :
    extended.roundedMantissa ≤ extended.mantissa + 1 := by
  obtain ⟨mantissa, half, below⟩ := extended
  cases half <;> cases below <;>
    simp only [ExtendedMantissa.roundedMantissa, ExtendedMantissa.accuracy,
      Accuracy.roundToNearestEven] <;> omega

variable (mantissa : Nat) (exponent : Int)

theorem mantissa_shiftToTargetExponent (accuracy : Accuracy) :
    (shiftToTargetExponent Format.binary64 mantissa exponent accuracy).1.mantissa =
      mantissa / 2 ^ (Format.binary64.targetExponent (totalExponent mantissa exponent) -
        exponent).toNat := by
  rw [shiftToTargetExponent, shiftToExponent, mantissa_shiftRight]
  cases accuracy with
  | exact => rfl
  | inexact place => cases place <;> rfl

/-- The exponent is raised to the target if it is less. -/
theorem exponent_shiftToTargetExponent (accuracy : Accuracy) :
    (shiftToTargetExponent Format.binary64 mantissa exponent accuracy).2 =
      max exponent (Format.binary64.targetExponent (totalExponent mantissa exponent)) := by
  rw [shiftToTargetExponent, shiftToExponent]
  dsimp only
  omega

/-- The target exponent leaves 53 significant bits, as far as doubles are that fine. -/
theorem targetExponent_totalExponent :
    Format.binary64.targetExponent (totalExponent mantissa exponent) =
      max (mantissa.log2 + exponent - 52) (-1074) := by
  have bits : ((Format.binary64.mantissaBits : Nat) : Int) = 53 := rfl
  have least : Format.binary64.minExponent = -1074 := rfl
  rw [Format.targetExponent, totalExponent, bits, least]
  omega

variable {mantissa exponent} {greatest : Int}

theorem log2_le_of_lt {number bits : Nat} (below : number < 2 ^ (bits + 1)) :
    number.log2 ≤ bits := by
  by_cases zero : number = 0
  · rw [zero, Nat.log2_zero]
    exact Nat.zero_le _
  · exact Nat.lt_succ_iff.mp ((Nat.log2_lt zero).mpr below)

/-- A shift of a number to the left and then to the right changes the number of its bits. -/
theorem shiftLeft_div_lt (number left right : Nat) :
    (number <<< left) / 2 ^ right < 2 ^ (number.log2 + 1 + left - right) := by
  refine Nat.div_lt_of_lt_mul ?_
  rw [Nat.shiftLeft_eq, ← Nat.pow_add]
  calc number * 2 ^ left
    _ < 2 ^ (number.log2 + 1) * 2 ^ left :=
        Nat.mul_lt_mul_of_pos_right Nat.lt_log2_self (Nat.two_pow_pos left)
    _ = 2 ^ (number.log2 + 1 + left) := (Nat.pow_add ..).symm
    _ ≤ 2 ^ (right + (number.log2 + 1 + left - right)) :=
        Nat.pow_le_pow_right (by decide) (by omega)

/-- A number that is rounded after a shift has at most one significant bit more than it keeps. -/
theorem log2_le_of_rounded {rounded count : Nat} (near : rounded ≤ mantissa / 2 ^ count + 1) :
    rounded.log2 ≤ mantissa.log2 + 1 - count := by
  have shifted := shiftLeft_div_lt mantissa 0 count
  rw [Nat.shiftLeft_zero, Nat.add_zero] at shifted
  refine log2_le_of_lt ?_
  rw [Nat.pow_succ]
  have positive := Nat.two_pow_pos (mantissa.log2 + 1 - count)
  omega

/-- Rounding takes a unit for 53 significant bits, and the rounded number may have one bit more. -/
theorem unitAtMost_roundWithAccuracy (sign : Sign) (accuracy : Accuracy)
    (least : -1074 ≤ greatest) (unit : exponent ≤ greatest)
    (below : mantissa.log2 + exponent < greatest + 52) :
    UnitAtMost greatest (roundWithAccuracy Format.binary64 sign mantissa exponent accuracy) := by
  have firstMantissa := mantissa_shiftToTargetExponent mantissa exponent accuracy
  have firstUnit := exponent_shiftToTargetExponent mantissa exponent accuracy
  rw [targetExponent_totalExponent] at firstMantissa firstUnit
  unfold roundWithAccuracy
  generalize shiftToTargetExponent Format.binary64 mantissa exponent accuracy = first at *
  obtain ⟨extended, shifted⟩ := first
  dsimp only at *
  have near := roundedMantissa_le extended
  rw [firstMantissa] at near
  have bits := log2_le_of_rounded near
  have secondUnit := exponent_shiftToTargetExponent extended.roundedMantissa shifted .exact
  rw [targetExponent_totalExponent] at secondUnit
  split
  · exact .zero sign
  · exact .finite (by omega)

end Rounding

section Operations

/-- Packing a value with a bounded unit gives a finite double. -/
theorem isFinite_pack {unpacked : UnpackedFloat} (bounded : UnitAtMost greatestUnit unpacked) :
    (Float.ofModel (Float.Model.pack unpacked)).isFinite = true :=
  (unitAtMost_unpack_pack (by decide) le_rfl bounded).isFinite

/-- The opposite of a finite double is finite. -/
@[simp] theorem isFinite_neg (value : Float) : (-value).isFinite = value.isFinite := by
  have opposite (number : UnpackedFloat) : number.neg.isFinite = number.isFinite := by
    cases number <;> rfl
  have sameUnit (number : UnpackedFloat) :
      UnitAtMost greatestUnit number → UnitAtMost greatestUnit number.neg
    | .zero _ => .zero _
    | .finite small => .finite small
  refine (isFinite_unpack_pack fun finite => ?_).trans (opposite _)
  rw [opposite] at finite
  exact sameUnit _ (unitAtMost_of_isFinite finite)

/-- A double is finite exactly if its exponent bits are not all set. -/
theorem isFinite_ofBits_iff (bits : UInt64) :
    (Float.ofBits bits).isFinite = true ↔ bits.toNat / 2 ^ 52 % 2 ^ 11 ≠ 2047 := by
  have kept : (Float.ofBits bits).isFinite =
      (UnpackedFloat.unpack Format.binary64 bits.toBitVec).isFinite :=
    isFinite_unpack_pack unitAtMost_of_isFinite
  have field : (@unpackExponent Format.binary64 bits.toBitVec).toNat =
      bits.toNat / 2 ^ 52 % 2 ^ 11 := by
    rw [unpackExponent, BitVec.toNat_cast, BitVec.extractLsb_toNat, Nat.shiftRight_eq_div_pow]
    rfl
  rw [kept, isFinite_unpack_iff, Ne, ← BitVec.toNat_inj, field]
  rfl

/-- Half of a number with 53 significant bits needs no greater unit than the number. -/
theorem unitAtMost_div_two {sign : Sign} {mantissa : Nat} {exponent : Int} {positive : 0 < mantissa}
    (bits : mantissa < 2 ^ 53) (unit : exponent ≤ greatestUnit) :
    UnitAtMost greatestUnit
      (UnpackedFloat.div Format.binary64 (.finite sign mantissa exponent positive)
        (.finite .positive (2 ^ 52) (-51) (by decide))) := by
  have short : mantissa.log2 ≤ 52 := log2_le_of_lt bits
  have least : Format.binary64.minExponent = -1074 := rfl
  have width : ((Format.binary64.mantissaBits : Nat) : Int) = 53 := rfl
  have ofTwo : totalExponent (2 ^ 52) (-51) = 2 := rfl
  unfold greatestUnit at *
  unfold UnpackedFloat.div UnpackedFloat.divCore
  dsimp only
  rw [Format.targetExponent, ofTwo, least, width, totalExponent]
  generalize start : min (exponent - -51) (max _ _) = target
  have quotient := shiftLeft_div_lt mantissa (exponent - -51 - target).toNat 52
  refine unitAtMost_roundWithAccuracy _ _ (by decide) (by omega) ?_
  have count : ((mantissa <<< (exponent - -51 - target).toNat) / 2 ^ 52).log2 ≤
      mantissa.log2 + (exponent - -51 - target).toNat - 52 :=
    log2_le_of_lt (lt_of_lt_of_le quotient (Nat.pow_le_pow_right (by decide) (by omega)))
  omega

/-- Halving a finite double gives a finite one. -/
theorem isFinite_half {value : Float} (finite : value.isFinite = true) :
    (value / Float.ofInt 2).isFinite = true := by
  have two : (Float.ofInt 2).toModel.unpack = .finite .positive (2 ^ 52) (-51) (by decide) := by
    rfl
  refine isFinite_pack ?_
  show UnitAtMost greatestUnit (UnpackedFloat.div Format.binary64 value.toModel.unpack
    (Float.ofInt 2).toModel.unpack)
  rw [two]
  have unit : UnitAtMost greatestUnit value.toModel.unpack := unitAtMost_of_isFinite finite
  cases unpacked : value.toModel.unpack with
  | infinity | notANumber =>
      rw [unpacked] at unit
      cases unit
  | zero sign => exact .zero _
  | finite sign mantissa exponent positive =>
      rw [unpacked] at unit
      cases unit with
      | finite small => exact unitAtMost_div_two (mantissa_lt_of_unpack unpacked) small

/-- A product of numbers with few bits and small units is not too great. -/
theorem unitAtMost_mul {sign other : Sign} {mantissa factor : Nat} {exponent power : Int}
    {positive : 0 < mantissa} {factorPositive : 0 < factor} {bits : Nat}
    (unit : exponent + power ≤ greatestUnit) (below : mantissa * factor < 2 ^ (bits + 1))
    (total : bits + (exponent + power) < greatestUnit + 52) :
    UnitAtMost greatestUnit
      (UnpackedFloat.mul Format.binary64 (.finite sign mantissa exponent positive)
        (.finite other factor power factorPositive)) := by
  have count := log2_le_of_lt below
  exact unitAtMost_roundWithAccuracy _ _ (by decide) unit (by omega)

theorem unitAtMost_ofNat {number : Nat} (small : number < 2 ^ 64) :
    UnitAtMost 12 (UnpackedFloat.ofNat Format.binary64 number) := by
  have bits : number.log2 ≤ 63 := log2_le_of_lt small
  unfold UnpackedFloat.ofNat UnpackedFloat.ofInt UnpackedFloat.normalize
  split
  · next negative => exact absurd (Int.compare_eq_lt.mp negative) (by omega)
  · exact .zero _
  · unfold UnpackedFloat.round decreaseExponent
    dsimp only
    rw [Int.toNat_natCast]
    generalize (0 - Format.binary64.targetExponent (totalExponent number 0)).toNat = shift
    have shifted : (number <<< shift).log2 ≤ number.log2 + shift := by
      refine log2_le_of_lt ?_
      have below := shiftLeft_div_lt number shift 0
      rw [Nat.pow_zero, Nat.div_one] at below
      exact lt_of_lt_of_le below (Nat.pow_le_pow_right (by decide) (by omega))
    exact unitAtMost_roundWithAccuracy _ _ (by decide) (by omega) (by omega)

/-- A whole number is read as the product of its digits and the unit of its exponent. -/
theorem unitAtMost_ofScientific {number : Nat} (small : number < 2 ^ 64) :
    UnitAtMost greatestUnit (UnpackedFloat.ofScientific Format.binary64 number 0) := by
  have range : (2 : Int) ^ Format.binary64.exponentBits = 2048 := rfl
  have width : Format.binary64.mantissaBits = 53 := rfl
  have bits : number <<< Format.binary64.mantissaBits * 10 ^ (0 : Int).toNat < 2 ^ 117 := by
    rw [width, Nat.shiftLeft_eq, Int.toNat_zero, Nat.pow_zero, Nat.mul_one]
    omega
  have unit : -(Format.binary64.mantissaBits : Int) + 0 ≤ greatestUnit := by decide
  have total : ((116 : Nat) : Int) + (-(Format.binary64.mantissaBits : Int) + 0) <
      greatestUnit + 52 := by decide
  unfold UnpackedFloat.ofScientific
  by_cases zero : number = 0
  · rw [dif_pos zero]
    exact .zero _
  · rw [dif_neg zero, if_neg (by rw [range]; decide), if_neg (by rw [range]; omega),
      if_pos le_rfl]
    exact unitAtMost_mul unit bits total

/-- A whole number with 53 bits is read as the product of itself and one. -/
theorem isFinite_toFloat_mul_one (number : UInt64) :
    (number.toFloat * Float.ofBits 0x3FF0000000000000).isFinite = true := by
  have one : (Float.ofBits 0x3FF0000000000000).toModel.unpack =
      .finite .positive (2 ^ 52) (-52) (by decide) := by
    rfl
  have unit : UnitAtMost 12 number.toFloat.toModel.unpack :=
    unitAtMost_unpack_pack (by decide) (by decide) (unitAtMost_ofNat number.toNat_lt)
  refine isFinite_pack ?_
  show UnitAtMost greatestUnit (UnpackedFloat.mul Format.binary64 number.toFloat.toModel.unpack
    (Float.ofBits 0x3FF0000000000000).toModel.unpack)
  rw [one]
  cases unpacked : number.toFloat.toModel.unpack with
  | infinity | notANumber =>
      rw [unpacked] at unit
      cases unit
  | zero sign => exact .zero _
  | finite sign mantissa exponent positive =>
      rw [unpacked] at unit
      cases unit with
      | finite small =>
          have bits : mantissa * 2 ^ 52 < 2 ^ (104 + 1) := by
            have bits := mantissa_lt_of_unpack unpacked
            omega
          exact unitAtMost_mul (by unfold greatestUnit; omega) bits
            (by unfold greatestUnit; omega)

/-- A natural number that fits a word is a finite double. -/
theorem isFinite_ofNat {number : Nat} (small : number < 2 ^ 64) :
    (Float.ofNat number).isFinite = true := by
  show (Float.ofScientific number false 0).isFinite = true
  unfold Float.ofScientific
  split
  · exact isFinite_toFloat_mul_one number.toUInt64
  · exact isFinite_pack (unitAtMost_ofScientific small)

/-- An integer of 64 bits is a finite double. -/
theorem isFinite_ofInt {number : Int} (small : number.natAbs < 2 ^ 64) :
    (Float.ofInt number).isFinite = true := by
  cases number with
  | ofNat number => exact isFinite_ofNat small
  | negSucc number => exact (isFinite_neg _).trans (isFinite_ofNat small)

end Operations

end DesignScene.Doubles
