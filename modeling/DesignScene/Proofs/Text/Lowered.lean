/-
This file shows that characters in lower case stay as they are when they are lowered once more, and that
lowering makes no separators.
-/
import DesignScene.Text.Key
import Mathlib.Data.List.Basic

namespace DesignScene.Text

namespace CaseShift

variable {shift other : CaseShift} {code : Nat}

/-- The code point to which another one moves. -/
def target (shift : CaseShift) (code : Nat) : Nat := Int.toNat (code + shift.offset)

/-- The shift applies to every code point, or every other one, between its first and its last one. -/
theorem covers_iff : shift.covers code = true ↔
    shift.first ≤ code ∧ code ≤ shift.last ∧ (code - shift.first) % shift.step = 0 := by
  simp [covers, and_assoc]

/-- Below this bound there are code points for all that move. -/
def isBounded (shift : CaseShift) : Bool :=
  0 ≤ shift.first + shift.offset && Nat.blt (shift.target shift.last) 0x110000

/-- The code points move past those of the other shift, or each of them moves between two of those. -/
def avoids (shift other : CaseShift) : Bool :=
  Nat.blt (shift.target shift.last) other.first || Nat.blt other.last (shift.target shift.first) ||
    ((shift.step == 2 || shift.first == shift.last) && other.step == 2 &&
      shift.target shift.first % 2 != other.first % 2)

theorem avoids_iff : shift.avoids other = true ↔
    shift.target shift.last < other.first ∨ other.last < shift.target shift.first ∨
      (shift.step = 2 ∨ shift.first = shift.last) ∧ other.step = 2 ∧
        shift.target shift.first % 2 ≠ other.first % 2 := by
  simp [avoids, Nat.blt_eq, or_assoc, and_assoc]

/-- What is moved does not meet what is avoided. -/
theorem not_covers_target (bounded : shift.isBounded = true) (avoided : shift.avoids other = true)
    (covered : shift.covers code = true) : other.covers (shift.target code) = false := by
  obtain ⟨least, most, ofStep⟩ := covers_iff.mp covered
  have start : 0 ≤ shift.first + shift.offset := by
    simp only [isBounded, Bool.and_eq_true, decide_eq_true_eq] at bounded
    exact bounded.1
  rw [Bool.eq_false_iff]
  intro reached
  obtain ⟨behind, before, otherStep⟩ := covers_iff.mp reached
  rw [target] at behind before otherStep
  rcases avoids_iff.mp avoided with below | above | ⟨steps | single, otherSteps, apart⟩
  · rw [target] at below
    omega
  · rw [target] at above
    omega
  · rw [target] at apart
    rw [steps] at ofStep
    rw [otherSteps] at otherStep
    omega
  · rw [target] at apart
    rw [otherSteps] at otherStep
    omega

end CaseShift

/-- What no letter in lower case is: a capital letter, a separator, or no character at all. -/
def unlowered : List CaseShift :=
  lowerShifts ++ [⟨0x130, 0x130, 1, 0⟩, ⟨0x5F, 0x5F, 1, 0⟩, ⟨0x2D, 0x2D, 1, 0⟩, ⟨0xD800, 0xDFFF, 1, 0⟩] ++
    blankRanges.map fun range => ⟨range.1, range.2, 1, 0⟩

/-- By their tables, no shift leads to a code point that has a lower-case form or separates words. -/
theorem avoids_unlowered :
    (lowerShifts.all fun shift => shift.isBounded && unlowered.all shift.avoids) = true := by
  decide +kernel

/-- The code points of characters that are no capital letters and no separators. -/
structure IsLowered (code : Nat) : Prop where
  isValid : code.isValidChar
  outside : ∀ other ∈ unlowered, other.covers code = false

section Shifts

variable {shift : CaseShift} {code first last : Nat}

theorem outside_of_mem_unlowered (outside : ∀ other ∈ unlowered, other.covers code = false)
    (listed : ⟨first, last, 1, 0⟩ ∈ unlowered) : code < first ∨ last < code := by
  by_contra inside
  have within : first ≤ code ∧ code ≤ last := by omega
  have covered : CaseShift.covers ⟨first, last, 1, 0⟩ code = true :=
    CaseShift.covers_iff.mpr ⟨within.1, within.2, Nat.mod_one _⟩
  rw [outside _ listed] at covered
  cases covered

/-- What a shift leads to is lowered. -/
theorem isLowered_target (listed : shift ∈ lowerShifts) (covered : shift.covers code = true) :
    IsLowered (shift.target code) := by
  have avoided := List.all_eq_true.mp avoids_unlowered shift listed
  rw [Bool.and_eq_true, List.all_eq_true] at avoided
  obtain ⟨bounded, avoided⟩ := avoided
  have outside : ∀ other ∈ unlowered, other.covers (shift.target code) = false :=
    fun other member => CaseShift.not_covers_target bounded (avoided other member) covered
  have small : shift.target code < 0x110000 := by
    simp only [CaseShift.isBounded, Bool.and_eq_true, Nat.blt_eq] at bounded
    obtain ⟨-, most, -⟩ := CaseShift.covers_iff.mp covered
    have last := bounded.2
    rw [CaseShift.target] at last ⊢
    omega
  have noSurrogate : shift.target code < 0xD800 ∨ 0xDFFF < shift.target code :=
    outside_of_mem_unlowered outside (by simp [unlowered])
  refine ⟨?_, outside⟩
  rcases noSurrogate with below | above
  · exact .inl below
  · exact .inr ⟨above, small⟩

end Shifts

section Characters

variable {character lowered : Char}

/-- The target of a shift is the code point of a character. -/
theorem toNat_apply {shift : CaseShift} {code : Nat} (isLowered : IsLowered (shift.target code)) :
    (shift.apply code).toNat = shift.target code :=
  congrArg Char.toNat (dif_pos isLowered.isValid)

/-- A character at such a code point is its own lower-case form. -/
theorem IsLowered.lowerChar_eq (isLowered : IsLowered character.toNat) :
    lowerChar character = [character] := by
  have unshifted : ∀ shift ∈ lowerShifts, ¬shift.covers character.toNat = true := by
    intro shift listed
    rw [isLowered.outside shift (by simp [unlowered, listed])]
    nofun
  rw [lowerChar]
  split
  · have noCapital := unshifted ⟨0x41, 0x5A, 1, 32⟩ List.mem_cons_self
    have kept : character.toLower = character := by
      refine dif_neg fun upper => noCapital (CaseShift.covers_iff.mpr ?_)
      exact ⟨upper.1, upper.2, Nat.mod_one _⟩
    rw [kept]
  · have listed : ⟨0x130, 0x130, 1, 0⟩ ∈ unlowered := by simp [unlowered]
    have apart := outside_of_mem_unlowered isLowered.outside listed
    have noDotted : ¬(character == 'İ') = true := by
      rw [beq_iff_eq]
      rintro rfl
      revert apart
      decide
    rw [if_neg noDotted, List.find?_eq_none.mpr unshifted]

/-- A lowered character is no separator. -/
theorem IsLowered.isSeparator_eq (isLowered : IsLowered character.toNat) :
    isSeparator character = false := by
  have isNo (code : Nat) (listed : ⟨code, code, 1, 0⟩ ∈ unlowered) : character.toNat ≠ code := by
    have apart := outside_of_mem_unlowered isLowered.outside listed
    omega
  have noBlank : isBlank character = false := by
    rw [isBlank, inRanges, List.any_eq_false]
    intro range listed
    have apart : character.toNat < range.1 ∨ range.2 < character.toNat :=
      outside_of_mem_unlowered isLowered.outside
        (List.mem_append_right _ (List.mem_map_of_mem listed))
    simp
    omega
  have noUnderscore : character ≠ '_' := fun same =>
    isNo 0x5F (by simp [unlowered]) (congrArg Char.toNat same)
  have noHyphen : character ≠ '-' := fun same =>
    isNo 0x2D (by simp [unlowered]) (congrArg Char.toNat same)
  simp [isSeparator, noBlank, noUnderscore, noHyphen]

/-- In lower case a character is an ASCII letter, the dotted capital, a shifted character, or itself. -/
theorem lowerChar_cases (character : Char) :
    (character.toNat < 128 ∧ lowerChar character = [character.toLower]) ∨
      (character = 'İ' ∧ lowerChar character = ['i', '\u0307']) ∨
      (∃ shift ∈ lowerShifts, shift.covers character.toNat = true ∧
        lowerChar character = [shift.apply character.toNat]) ∨
      lowerChar character = [character] := by
  rw [lowerChar]
  split
  · next ascii => exact .inl ⟨ascii, rfl⟩
  · split
    · next dotted => exact .inr (.inl ⟨eq_of_beq dotted, rfl⟩)
    · split
      · next shift found =>
          obtain ⟨covered, -⟩ := List.find?_eq_some_iff_append.mp found
          exact .inr (.inr (.inl ⟨shift, List.mem_of_find?_eq_some found, covered, rfl⟩))
      · exact .inr (.inr (.inr rfl))

/-- An ASCII letter in lower case stays as it is, and it separates words only if the letter does. -/
theorem lowered_of_ascii (small : character.toNat < 128) :
    lowerChar character.toLower = [character.toLower] ∧
      (isSeparator character = false → isSeparator character.toLower = false) := by
  have each : ∀ code : Fin 128, lowerChar (Char.ofNat code).toLower = [(Char.ofNat code).toLower] ∧
      (isSeparator (Char.ofNat code) = false → isSeparator (Char.ofNat code).toLower = false) := by
    decide +kernel
  have here := each ⟨character.toNat, small⟩
  rwa [Char.ofNat_toNat] at here

/-- The characters of a lower-case form are in lower case, and no separators unless the character is one. -/
theorem lowered_of_mem_lowerChar (member : lowered ∈ lowerChar character) :
    lowerChar lowered = [lowered] ∧ (isSeparator character = false → isSeparator lowered = false) := by
  rcases lowerChar_cases character with ⟨small, form⟩ | ⟨rfl, form⟩ | ⟨shift, listed, covered, form⟩ | form
  · rw [form, List.mem_singleton] at member
    rw [member]
    exact lowered_of_ascii small
  · rw [form] at member
    rcases List.mem_cons.mp member with rfl | later
    · decide
    · obtain rfl := List.mem_singleton.mp later
      decide
  · have isLowered := isLowered_target listed covered
    rw [form, List.mem_singleton] at member
    rw [member]
    rw [← toNat_apply isLowered] at isLowered
    exact ⟨isLowered.lowerChar_eq, fun _ => isLowered.isSeparator_eq⟩
  · rw [form, List.mem_singleton] at member
    rw [member]
    exact ⟨form, id⟩

end Characters

end DesignScene.Text
