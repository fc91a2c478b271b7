/-
This file says what the letters of a text become in lower case.
-/
import DesignScene.Text.Case

namespace DesignScene.Text

/-- A capital letter moves up by 32 places, and every other character stays. -/
theorem toLower_cases (character : Char) :
    character.toLower = character ∨ character.toLower.toNat = character.toNat + 32 := by
  by_cases upper : character.val ≥ 'A'.val ∧ character.val ≤ 'Z'.val
  · have form : character.toLower.toNat = (character.val + 32).toNat :=
      congrArg Char.toNat (dif_pos upper)
    have bound : character.toNat ≤ 90 := upper.2
    have lowered : (character.val + 32).toNat = (character.toNat + 32) % 2 ^ 32 :=
      UInt32.toNat_add _ _
    exact .inr (by omega)
  · exact .inl (dif_neg upper)

/-- In lower case a letter has no lesser code point. -/
theorem toNat_le_toLower (character : Char) : character.toNat ≤ character.toLower.toNat := by
  rcases toLower_cases character with same | moved
  · exact Nat.le_of_eq (congrArg Char.toNat same.symm)
  · omega

/-- A lower-case letter is the image of itself and of its capital letter only. -/
theorem eq_or_eq_of_toLower {character lower : Char} (upper : Char)
    (same : character.toLower = lower) (apart : upper.toNat + 32 = lower.toNat) :
    character = lower ∨ character = upper := by
  rcases toLower_cases character with kept | moved
  · exact .inl (kept.symm.trans same)
  · rw [same] at moved
    exact .inr (Char.toNat_inj.mp (by omega))

/-- An ASCII text is lowered letter by letter. -/
theorem lowerCharsAfter_of_ascii {characters : List Char}
    (ascii : ∀ character ∈ characters, character.toNat < 128) (before : List Char) :
    lowerCharsAfter before characters = lowerAsciiChars characters := by
  induction characters generalizing before with
  | nil => rfl
  | cons character rest ih =>
      have small := ascii character List.mem_cons_self
      have noSigma : (character == 'Σ') = false := by
        rw [beq_eq_false_iff_ne]
        rintro rfl
        exact absurd small (by decide)
      have form : lowerChar character = [character.toLower] := if_pos small
      rw [lowerCharsAfter, ih fun other later => ascii other (List.mem_cons_of_mem _ later)]
      simp [noSigma, form, lowerAsciiChars]

/-- A text that is equal to an ASCII word up to the case of its letters has the same lower case. -/
theorem lower_of_equalIgnoringAsciiCase {text word : String}
    (same : equalIgnoringAsciiCase text word = true)
    (ascii : ∀ character ∈ lowerAsciiChars word.toList, character.toNat < 128) :
    lower text = String.ofList (lowerAsciiChars word.toList) := by
  have sameChars : lowerAsciiChars text.toList = lowerAsciiChars word.toList := eq_of_beq same
  rw [← sameChars] at ascii ⊢
  rw [lower, lowerCharsAfter_of_ascii]
  intro character member
  exact Nat.lt_of_le_of_lt (toNat_le_toLower character)
    (ascii _ (List.mem_map_of_mem member))

end DesignScene.Text
