/-
This file says which numerals stand for no number.
-/
import DesignScene.Decimal.Numeral
import DesignScene.Proofs.Scalar.Comparable
import DesignScene.Proofs.Text.Letters

namespace DesignScene.Decimal

/-- The letters for what is no number, in any case and with any sign. -/
def NamesNoNumber (characters : List Char) : Prop :=
  ∃ sign letters, characters = sign ++ letters ∧ (sign = [] ∨ sign = ['+'] ∨ sign = ['-']) ∧
    letters.map Char.toLower = "nan".toList

section Reading

variable {negative : Bool} {characters letters : List Char}

/-- A numeral with digits names a number. -/
theorem readFinite_ne_notANumber : readFinite negative characters ≠ some .notANumber := by
  intro read
  unfold readFinite at read
  dsimp only at read
  split at read
  · split_ifs at read
    obtain ⟨exponent, -, same⟩ := Option.map_eq_some_iff.mp read
    cases same
  · split_ifs at read
    obtain ⟨exponent, -, same⟩ := Option.map_eq_some_iff.mp read
    cases same

/-- Of the names only `nan` in any case names no number. -/
theorem readNamed_eq_notANumber_iff :
    readNamed negative characters = some .notANumber ↔
      characters.map Char.toLower = "nan".toList := by
  unfold readNamed
  dsimp only
  split_ifs with isNan isInfinite
  · exact iff_of_true rfl (eq_of_beq isNan)
  · exact iff_of_false nofun fun same => isNan (beq_iff_eq.mpr same)
  · exact iff_of_false nofun fun same => isNan (beq_iff_eq.mpr same)

/-- The letters begin with no digit and no point. -/
theorem readFinite_of_letters (same : letters.map Char.toLower = "nan".toList) :
    readFinite negative letters = none := by
  obtain ⟨first, rest, rfl, isN, -⟩ := List.map_eq_cons_iff.mp same
  rcases Text.eq_or_eq_of_toLower 'N' isN (by decide) with rfl | rfl <;> rfl

/-- The letters begin with no sign. -/
theorem readSign_of_letters (same : letters.map Char.toLower = "nan".toList) :
    readSign letters = (false, letters) := by
  obtain ⟨first, rest, rfl, isN, -⟩ := List.map_eq_cons_iff.mp same
  rcases Text.eq_or_eq_of_toLower 'N' isN (by decide) with rfl | rfl <;> rfl

/-- A sign and the rest are the whole. -/
theorem readSign_eq (characters : List Char) :
    ∃ sign, characters = sign ++ (readSign characters).2 ∧
      (sign = [] ∨ sign = ['+'] ∨ sign = ['-']) := by
  unfold readSign
  split
  · exact ⟨['+'], rfl, .inr (.inl rfl)⟩
  · exact ⟨['-'], rfl, .inr (.inr rfl)⟩
  · exact ⟨[], rfl, .inl rfl⟩

/-- A numeral names no number exactly if it is `nan` behind a sign or none. -/
theorem readNumeral_eq_notANumber_iff (text : String) :
    readNumeral text = some .notANumber ↔ NamesNoNumber text.toList := by
  unfold readNumeral
  dsimp only
  constructor
  · intro read
    obtain ⟨sign, whole, isSign⟩ := readSign_eq text.toList
    rcases Option.or_eq_some_iff.mp read with finite | ⟨-, named⟩
    · exact absurd finite readFinite_ne_notANumber
    · exact ⟨sign, _, whole, isSign, readNamed_eq_notANumber_iff.mp named⟩
  · intro ⟨sign, letters, whole, isSign, same⟩
    have ofRest (negative : Bool) :
        (readFinite negative letters).or (readNamed negative letters) = some .notANumber := by
      rw [readFinite_of_letters same]
      exact readNamed_eq_notANumber_iff.mpr same
    rcases isSign with rfl | rfl | rfl
    · rw [whole, List.nil_append, readSign_of_letters same]
      exact ofRest false
    · rw [whole]
      exact ofRest false
    · rw [whole]
      exact ofRest true

end Reading

section Values

/-- A ratio is never rounded to something that is no number. -/
theorem isNaN_nearestFloat (numerator denominator : Nat) :
    (nearestFloat numerator denominator).isNaN = false := by
  unfold nearestFloat
  split
  · decide
  · have bound : nearestBits numerator denominator ≤ 0x7FF * leadingBit := Nat.min_le_right _ _
    have unit : leadingBit = 2 ^ 52 := rfl
    apply Bool.eq_false_iff.mpr
    intro undefined
    obtain ⟨exponent, mantissa⟩ := (Doubles.isNaN_ofBits_iff _).mp undefined
    rw [UInt64.toNat_ofNat'] at exponent mantissa
    omega

/-- A numeral has no value as a double exactly if it says so. -/
theorem Numeral.isNaN_toFloat_iff (numeral : Numeral) :
    numeral.toFloat.isNaN = true ↔ numeral = .notANumber := by
  cases numeral with
  | notANumber => exact iff_of_true (by decide) rfl
  | infinite negative => cases negative <;> exact iff_of_false (by decide) nofun
  | finite negative digits exponent =>
      refine iff_of_false ?_ nofun
      rw [Bool.not_eq_true]
      unfold Numeral.toFloat
      dsimp only
      generalize digits * tenTo exponent.toNat = numerator
      generalize tenTo (-exponent).toNat = denominator
      generalize (digitCount digits : Int) + exponent = leading
      have magnitude : (if (digits == 0 || leading < -400) = true then 0.0
          else if 400 < leading then 1.0 / 0.0
          else nearestFloat numerator denominator).isNaN = false := by
        split_ifs
        · decide
        · decide
        · exact isNaN_nearestFloat numerator denominator
      split
      · rw [Doubles.isNaN_neg]
        exact magnitude
      · exact magnitude

end Values

end DesignScene.Decimal
