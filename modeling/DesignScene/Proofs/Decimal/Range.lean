/-
This file says which numerals are read as finite doubles.
-/
import DesignScene.Decimal.Numeral
import DesignScene.Proofs.Scalar.Finite

namespace DesignScene.Decimal

/-- Half a unit beyond the greatest double, where rounding first gives an infinite one. -/
def overflowFrom : Rat := (2 ^ 54 - 1) * (2 : Rat) ^ (970 : Int)

/-- The numeral is named neither infinite nor undefined, and its exact value is not too great. -/
def Numeral.IsBounded : Numeral → Prop
  | .finite _ digits exponent => (digits : Rat) * (10 : Rat) ^ exponent < overflowFrom
  | _ => False

section Ratio

variable {numerator denominator : Nat} {power : Int}

theorem two_zpow_eq (power : Int) :
    (2 : Rat) ^ power = (2 : Rat) ^ power.toNat / (2 : Rat) ^ (-power).toNat := by
  rw [← zpow_natCast, ← zpow_natCast, ← zpow_sub₀ two_ne_zero]
  congr 1
  omega

theorem two_zpow_eq_two_mul (power : Int) : (2 : Rat) ^ power = 2 * (2 : Rat) ^ (power - 1) := by
  rw [zpow_sub_one₀ two_ne_zero]
  ring

/-- The powers of two are those of the rational numbers. -/
theorem cast_twoTo (exponent : Nat) : (twoTo exponent : Rat) = 2 ^ exponent :=
  Nat.cast_pow 2 exponent

/-- The powers of ten are those of the rational numbers. -/
theorem cast_tenTo (exponent : Nat) : (tenTo exponent : Rat) = 10 ^ exponent :=
  Nat.cast_pow 10 exponent

/-- Scaling by a power of two on the one side or the other compares with the ratio. -/
theorem mul_scaled_le_iff (positive : 0 < denominator) (power : Int) (count : Nat) :
    count * (denominator * twoTo power.toNat) ≤ numerator * twoTo (-power).toNat ↔
      (count : Rat) * (2 : Rat) ^ power ≤ numerator / denominator := by
  have divisor : (0 : Rat) < denominator := by exact_mod_cast positive
  have scale : (0 : Rat) < (2 : Rat) ^ (-power).toNat := by positivity
  rw [two_zpow_eq, ← mul_div_assoc, div_le_div_iff₀ scale divisor, ← Nat.cast_le (α := Rat),
    Nat.cast_mul, Nat.cast_mul, Nat.cast_mul, cast_twoTo, cast_twoTo,
    mul_comm (denominator : Rat), ← mul_assoc]

/-- The quotient is the ratio in units of the power, rounded down. -/
theorem le_quotientAt_iff (numerator : Nat) (positive : 0 < denominator) (power : Int)
    (count : Nat) :
    count ≤ (quotientAt numerator denominator power).1 ↔
      (count : Rat) * (2 : Rat) ^ power ≤ numerator / denominator := by
  rw [← mul_scaled_le_iff positive]
  exact Nat.le_div_iff_mul_le (Nat.mul_pos positive (Nat.two_pow_pos _))

/-- A quotient below a count bounds the ratio by that count of units. -/
theorem lt_mul_two_zpow_of_quotientAt_lt (positive : 0 < denominator) {count : Nat}
    (below : (quotientAt numerator denominator power).1 < count) :
    (numerator : Rat) / denominator < count * (2 : Rat) ^ power :=
  lt_of_not_ge fun least =>
    Nat.not_le_of_lt below ((le_quotientAt_iff numerator positive power count).mpr least)

/-- The binary digits of two numbers bound their ratio. -/
theorem two_zpow_log2_bounds (numeratorPositive : 0 < numerator) (positive : 0 < denominator) :
    (2 : Rat) ^ ((numerator.log2 : Int) - denominator.log2 - 1) ≤ numerator / denominator ∧
      (numerator : Rat) / denominator <
        (2 : Rat) ^ ((numerator.log2 : Int) - denominator.log2 + 1) := by
  have atLeast (number : Nat) (nonzero : 0 < number) :
      (2 : Rat) ^ (number.log2 : Int) ≤ number := by
    rw [zpow_natCast]
    exact_mod_cast Nat.log2_self_le (Nat.ne_of_gt nonzero)
  have below (number : Nat) : (number : Rat) < (2 : Rat) ^ ((number.log2 : Int) + 1) := by
    have next : (number : Rat) < (2 : Rat) ^ (number.log2 + 1) := by
      exact_mod_cast Nat.lt_log2_self
    exact_mod_cast next
  have divisor : (0 : Rat) < denominator := by exact_mod_cast positive
  constructor
  · rw [le_div_iff₀ divisor]
    calc (2 : Rat) ^ ((numerator.log2 : Int) - denominator.log2 - 1) * denominator
      _ ≤ (2 : Rat) ^ ((numerator.log2 : Int) - denominator.log2 - 1) *
            (2 : Rat) ^ ((denominator.log2 : Int) + 1) := by
          gcongr
          exact (below denominator).le
      _ = (2 : Rat) ^ (numerator.log2 : Int) := by
          rw [← zpow_add₀ two_ne_zero]
          congr 1
          omega
      _ ≤ numerator := atLeast numerator numeratorPositive
  · rw [div_lt_iff₀ divisor]
    calc (numerator : Rat)
      _ < (2 : Rat) ^ ((numerator.log2 : Int) + 1) := below numerator
      _ = (2 : Rat) ^ ((numerator.log2 : Int) - denominator.log2 + 1) *
            (2 : Rat) ^ (denominator.log2 : Int) := by
          rw [← zpow_add₀ two_ne_zero]
          congr 1
          omega
      _ ≤ (2 : Rat) ^ ((numerator.log2 : Int) - denominator.log2 + 1) * denominator := by
          gcongr
          exact atLeast denominator positive

theorem two_pow_mul_zpow (bits : Nat) (power : Int) :
    (2 : Rat) ^ bits * (2 : Rat) ^ power = (2 : Rat) ^ (bits + power) := by
  rw [zpow_add₀ two_ne_zero, zpow_natCast]

/-- The guess or the next power leaves 53 binary digits. -/
theorem guess_bounds (guess : Int)
    (least : (2 : Rat) ^ (52 + guess) ≤ numerator / denominator)
    (below : (numerator : Rat) / denominator < (2 : Rat) ^ (54 + guess))
    (positive : 0 < denominator) :
    let power :=
      if (quotientAt numerator denominator guess).1 < 2 * leadingBit then guess else guess + 1
    2 ^ 52 * (2 : Rat) ^ power ≤ numerator / denominator ∧
      (numerator : Rat) / denominator < 2 ^ 53 * (2 : Rat) ^ power := by
  have bits : ((2 * leadingBit : Nat) : Rat) = 2 ^ 53 := by
    rw [Nat.cast_mul, leadingBit, cast_twoTo]
    norm_num
  dsimp only
  split_ifs with small
  · have upper := lt_mul_two_zpow_of_quotientAt_lt positive small
    rw [bits] at upper
    rw [two_pow_mul_zpow]
    exact ⟨least, upper⟩
  · have lower := (le_quotientAt_iff numerator positive guess _).mp (Nat.le_of_not_lt small)
    rw [bits] at lower
    rw [two_pow_mul_zpow] at lower ⊢
    rw [two_pow_mul_zpow]
    constructor
    · convert lower using 2
      omega
    · convert below using 2
      omega

/-- The power leaves 53 binary digits, or fewer if it is the least one. -/
theorem nearestPower_bounds (numeratorPositive : 0 < numerator) (positive : 0 < denominator) :
    (numerator : Rat) / denominator < 2 ^ 53 * (2 : Rat) ^ nearestPower numerator denominator ∧
      (-1074 < nearestPower numerator denominator →
        2 ^ 52 * (2 : Rat) ^ nearestPower numerator denominator ≤ numerator / denominator) := by
  obtain ⟨least, below⟩ := two_zpow_log2_bounds numeratorPositive positive
  unfold nearestPower
  dsimp only
  generalize start : (numerator.log2 : Int) - denominator.log2 - 53 = guess
  have bounds := guess_bounds guess (by convert least using 2; omega)
    (by convert below using 2; omega) positive
  dsimp only at bounds
  generalize (if (quotientAt numerator denominator guess).1 < 2 * leadingBit then guess
    else guess + 1) = power at *
  obtain ⟨lower, upper⟩ := bounds
  refine ⟨lt_of_lt_of_le upper ?_, fun above => ?_⟩
  · gcongr
    · norm_num
    · exact le_max_left _ _
  · rw [max_eq_left (by omega)]
    exact lower

/-- The rest is at least half of the divisor exactly if the ratio is at least half way up. -/
theorem divisor_le_two_mul_rest_iff (numerator : Nat) (positive : 0 < denominator) (power : Int) :
    (quotientAt numerator denominator power).2.2 ≤
        2 * (quotientAt numerator denominator power).2.1 ↔
      ((2 * (quotientAt numerator denominator power).1 + 1 : Nat) : Rat) *
        (2 : Rat) ^ (power - 1) ≤ numerator / denominator := by
  have doubled (count : Nat) :
      (count : Rat) * (2 : Rat) ^ (power - 1) ≤ numerator / denominator ↔
      (count : Rat) * (2 : Rat) ^ power ≤ (2 * numerator : Nat) / denominator := by
    rw [two_zpow_eq_two_mul power, Nat.cast_mul, mul_left_comm, mul_div_assoc]
    exact (mul_le_mul_iff_of_pos_left two_pos).symm
  rw [doubled, ← mul_scaled_le_iff positive, Nat.mul_assoc 2 numerator]
  unfold quotientAt
  dsimp only
  have division := Nat.div_add_mod (numerator * twoTo (-power).toNat)
    (denominator * twoTo power.toNat)
  generalize numerator * twoTo (-power).toNat = dividend at *
  generalize denominator * twoTo power.toNat = divisor at *
  rw [Nat.add_mul, Nat.one_mul, Nat.mul_assoc 2, Nat.mul_comm _ divisor]
  generalize divisor * (dividend / divisor) = whole at *
  omega

/-- The nearest bits come from the quotient at the nearest power, which is rounded. -/
theorem nearestBits_eq (numerator denominator : Nat) :
    let power := nearestPower numerator denominator
    let found := quotientAt numerator denominator power
    nearestBits numerator denominator =
      min ((power + 1074).toNat * leadingBit +
        if found.2.2 < 2 * found.2.1 ∨ 2 * found.2.1 = found.2.2 ∧ found.1 % 2 = 1 then
          found.1 + 1
        else found.1) (0x7FF * leadingBit) := by
  simp [nearestBits]

/-- In a smaller unit than that of the greatest double, 53 binary digits are in range. -/
theorem mul_two_zpow_le_overflowFrom (small : power ≤ 970) :
    2 ^ 53 * (2 : Rat) ^ power ≤ overflowFrom := by
  unfold overflowFrom
  gcongr
  · norm_num
  · norm_num

/-- In a greater unit than that of the greatest double, 53 binary digits are out of range. -/
theorem overflowFrom_le_mul_two_zpow (large : 971 < power) :
    overflowFrom ≤ 2 ^ 52 * (2 : Rat) ^ power :=
  calc overflowFrom
    _ ≤ 2 ^ 54 * (2 : Rat) ^ (970 : Int) := by
        unfold overflowFrom
        gcongr
        norm_num
    _ = 2 ^ 52 * (2 : Rat) ^ (972 : Int) := by
        rw [two_pow_mul_zpow, two_pow_mul_zpow]
        rfl
    _ ≤ 2 ^ 52 * (2 : Rat) ^ power := by
        gcongr
        · norm_num
        · omega

/-- The greatest double itself is in range. -/
theorem greatest_mul_two_zpow_le : ((2 ^ 53 - 1 : Nat) : Rat) * (2 : Rat) ^ (971 : Int) ≤
    overflowFrom := by
  rw [two_zpow_eq_two_mul, ← mul_assoc]
  unfold overflowFrom
  gcongr
  · norm_num
  · norm_num
  · decide

/-- The nearest double is finite exactly if the ratio is not too great. -/
theorem nearestBits_lt_iff (numeratorPositive : 0 < numerator) (positive : 0 < denominator) :
    nearestBits numerator denominator < 0x7FF * leadingBit ↔
      (numerator : Rat) / denominator < overflowFrom := by
  obtain ⟨upper, lower⟩ := nearestPower_bounds numeratorPositive positive
  have half := divisor_le_two_mul_rest_iff numerator positive (nearestPower numerator denominator)
  have floor := le_quotientAt_iff numerator positive (nearestPower numerator denominator)
  rw [nearestBits_eq]
  generalize nearestPower numerator denominator = power at *
  generalize quotientAt numerator denominator power = found at *
  obtain ⟨quotient, rest, divisor⟩ := found
  dsimp only at *
  have small : quotient < 2 ^ 53 := by
    refine Nat.lt_of_not_le fun least => absurd ((floor (2 ^ 53)).mp least) (not_le.mpr ?_)
    exact_mod_cast upper
  have unit : leadingBit = 2 ^ 52 := rfl
  rw [unit]
  rcases lt_trichotomy power 971 with below | rfl | above
  · refine iff_of_true ?_ (lt_of_lt_of_le upper (mul_two_zpow_le_overflowFrom (by omega)))
    split_ifs <;> omega
  · by_cases greatest : quotient + 1 = 2 ^ 53
    · have twice : ((2 * quotient + 1 : Nat) : Rat) * (2 : Rat) ^ ((971 : Int) - 1) =
          overflowFrom := by
        have odd : 2 * quotient + 1 = 2 ^ 54 - 1 := by omega
        rw [odd]
        norm_num [overflowFrom]
      have roundsDown : (numerator : Rat) / denominator < overflowFrom ↔ 2 * rest < divisor := by
        rw [← not_le, ← twice, ← half, Nat.not_le]
      rw [roundsDown]
      split_ifs <;> omega
    · have next : (numerator : Rat) / denominator <
          (quotient + 1 : Nat) * (2 : Rat) ^ (971 : Int) :=
        lt_of_not_ge fun most => Nat.not_succ_le_self _ ((floor _).mpr most)
      have short : ((quotient + 1 : Nat) : Rat) ≤ ((2 ^ 53 - 1 : Nat) : Rat) := by
        exact_mod_cast (by omega : quotient + 1 ≤ 2 ^ 53 - 1)
      have inRange : (quotient + 1 : Nat) * (2 : Rat) ^ (971 : Int) ≤ overflowFrom :=
        le_trans (by gcongr) greatest_mul_two_zpow_le
      refine iff_of_true ?_ (lt_of_lt_of_le next inRange)
      split_ifs <;> omega
  · have large : 2 ^ 52 ≤ quotient := by
      refine (floor (2 ^ 52)).mpr ?_
      exact_mod_cast lower (by omega)
    have tooGreat := le_trans (overflowFrom_le_mul_two_zpow above) (lower (by omega))
    refine iff_of_false ?_ (not_lt.mpr tooGreat)
    split_ifs <;> omega

end Ratio

section Reading

variable {digits : Nat} {exponent : Int}

/-- The number of its digits bounds a positive number. -/
theorem digitCount_bounds (positive : 0 < digits) :
    (10 : Rat) ^ ((digitCount digits : Int) - 1) ≤ digits ∧
      (digits : Rat) < (10 : Rat) ^ (digitCount digits : Int) := by
  have some : 0 < digitCount digits := Nat.length_toDigits_pos
  have below : digits < 10 ^ digitCount digits :=
    (Nat.length_toDigits_le_iff (by decide) some).mp le_rfl
  have least : 10 ^ (digitCount digits - 1) ≤ digits := by
    by_cases single : digitCount digits = 1
    · rw [single]
      exact positive
    · refine Nat.le_of_not_lt fun fewer => ?_
      have short : digitCount digits ≤ digitCount digits - 1 :=
        (Nat.length_toDigits_le_iff (by decide) (by omega)).mpr fewer
      omega
  have previous : (digitCount digits : Int) - 1 = (digitCount digits - 1 : Nat) := by omega
  rw [previous, zpow_natCast, zpow_natCast]
  exact ⟨by exact_mod_cast least, by exact_mod_cast below⟩

/-- The value of a numeral is the ratio of two whole numbers. -/
theorem mul_ten_zpow_eq (digits : Nat) (exponent : Int) :
    (digits : Rat) * (10 : Rat) ^ exponent =
      (digits * tenTo exponent.toNat : Nat) / (tenTo (-exponent).toNat : Nat) := by
  rw [Nat.cast_mul, cast_tenTo, cast_tenTo, mul_div_assoc, ← zpow_natCast, ← zpow_natCast,
    ← zpow_sub₀ (by norm_num)]
  congr 2
  omega

/-- A ratio is rounded to a finite double exactly if it is below the overflow. -/
theorem isFinite_nearestFloat_iff {numerator denominator : Nat} (numeratorPositive : 0 < numerator)
    (positive : 0 < denominator) :
    (nearestFloat numerator denominator).isFinite = true ↔
      (numerator : Rat) / denominator < overflowFrom := by
  rw [← nearestBits_lt_iff numeratorPositive positive, nearestFloat,
    if_neg (by simpa using Nat.ne_of_gt numeratorPositive), Doubles.isFinite_ofBits_iff]
  have most : nearestBits numerator denominator ≤ 0x7FF * leadingBit := min_le_right _ _
  have unit : leadingBit = 2 ^ 52 := rfl
  rw [unit] at most ⊢
  have word : (UInt64.ofNat (nearestBits numerator denominator)).toNat =
      nearestBits numerator denominator :=
    UInt64.toNat_ofNat_of_lt' (by unfold UInt64.size; omega)
  rw [word]
  omega

theorem one_le_overflowFrom : 1 ≤ overflowFrom :=
  one_le_mul_of_one_le_of_one_le (by norm_num) (one_le_zpow₀ (by norm_num) (by norm_num))

/-- A value with 400 zeros after the point is less than one. -/
theorem lt_overflowFrom_of_leading_lt (positive : 0 < digits)
    (small : (digitCount digits : Int) + exponent < -400) :
    (digits : Rat) * (10 : Rat) ^ exponent < overflowFrom :=
  calc (digits : Rat) * (10 : Rat) ^ exponent
    _ < (10 : Rat) ^ (digitCount digits : Int) * (10 : Rat) ^ exponent := by
        gcongr
        exact (digitCount_bounds positive).2
    _ = (10 : Rat) ^ ((digitCount digits : Int) + exponent) := (zpow_add₀ (by norm_num) _ _).symm
    _ ≤ (10 : Rat) ^ (0 : Int) := by
        gcongr
        · norm_num
        · omega
    _ = 1 := zpow_zero _
    _ ≤ overflowFrom := one_le_overflowFrom

/-- A value with more than 400 digits before the point is out of range. -/
theorem overflowFrom_le_of_lt_leading (positive : 0 < digits)
    (large : 400 < (digitCount digits : Int) + exponent) :
    overflowFrom ≤ (digits : Rat) * (10 : Rat) ^ exponent :=
  calc overflowFrom
    _ ≤ (2 : Rat) ^ 54 * (2 : Rat) ^ (970 : Int) := by
        unfold overflowFrom
        gcongr
        norm_num
    _ ≤ (2 : Rat) ^ (1200 : Int) := by
        rw [two_pow_mul_zpow]
        gcongr
        · norm_num
        · decide
    _ = ((2 : Rat) ^ (3 : Int)) ^ (400 : Int) := zpow_mul 2 3 400
    _ ≤ (10 : Rat) ^ (400 : Int) := zpow_le_zpow_left₀ (by decide) (by norm_num) (by norm_num)
    _ ≤ (10 : Rat) ^ ((digitCount digits : Int) - 1 + exponent) := by
        gcongr
        · norm_num
        · omega
    _ = (10 : Rat) ^ ((digitCount digits : Int) - 1) * (10 : Rat) ^ exponent :=
        zpow_add₀ (by norm_num) _ _
    _ ≤ digits * (10 : Rat) ^ exponent := by
        gcongr
        exact (digitCount_bounds positive).1

/-- A numeral is read as a finite double exactly if it is in range. -/
theorem Numeral.isFinite_toFloat_iff (numeral : Numeral) :
    numeral.toFloat.isFinite = true ↔ numeral.IsBounded := by
  cases numeral with
  | notANumber => exact iff_of_false (by decide) id
  | infinite negative => cases negative <;> exact iff_of_false (by decide) id
  | finite negative digits exponent =>
      have unsigned (magnitude : Float) :
          (if negative then -magnitude else magnitude).isFinite = magnitude.isFinite := by
        cases negative
        · rfl
        · exact Doubles.isFinite_neg magnitude
      unfold Numeral.toFloat Numeral.IsBounded
      dsimp only
      rw [unsigned]
      by_cases zero : digits = 0
      · subst zero
        have small : ((0 : Nat) : Rat) * (10 : Rat) ^ exponent < overflowFrom := by
          rw [Nat.cast_zero, zero_mul]
          exact lt_of_lt_of_le one_pos one_le_overflowFrom
        exact iff_of_true (by decide : (0.0 : Float).isFinite = true) small
      have positive : 0 < digits := Nat.pos_of_ne_zero zero
      split_ifs with tiny huge
      · have small : (digitCount digits : Int) + exponent < -400 := by simpa [zero] using tiny
        exact iff_of_true (by decide) (lt_overflowFrom_of_leading_lt positive small)
      · exact iff_of_false (by decide) (not_lt.mpr (overflowFrom_le_of_lt_leading positive huge))
      · rw [mul_ten_zpow_eq]
        exact isFinite_nearestFloat_iff (Nat.mul_pos positive (Nat.pow_pos (by decide)))
          (Nat.pow_pos (by decide))

end Reading

end DesignScene.Decimal
