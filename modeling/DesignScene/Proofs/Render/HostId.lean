/-
This file tells the generated part of a host identifier from the identifier that it stands before.
-/
import DesignScene.Component.Identifier
import DesignScene.Proofs.Text.Words
import DesignScene.Render.Instance
import Mathlib.Data.List.Basic
import Mathlib.Data.List.TakeWhile

namespace DesignScene

namespace Text

/-- The ending test is the suffix relation of letters. -/
theorem endsWith_iff {text ending : String} :
    endsWith text ending = true ↔ ending.toList <:+ text.toList := List.isSuffixOf_iff_suffix

end Text

section Separators

variable {mark : Char} {front rest key needle : List Char}

/-- An ending that begins with a mark does not reach back over characters that are not the mark. -/
theorem suffix_append_iff_of_not_mem (fresh : mark ∉ front) :
    mark :: key <:+ front ++ rest ↔ mark :: key <:+ rest := by
  induction front with
  | nil => rfl
  | cons first more ih =>
      rw [List.mem_cons, not_or] at fresh
      rw [List.cons_append, List.suffix_cons_iff, ih fresh.2]
      simp [fresh.1]

/-- A part without the mark stands before the mark or behind it. -/
theorem infix_append_cons_iff_of_not_mem (fresh : mark ∉ needle) :
    needle <:+: front ++ mark :: rest ↔ needle <:+: front ∨ needle <:+: rest := by
  have noHead {part : List Char} (begins : part <+: mark :: rest) (inside : part <:+: needle) :
      part = [] := by
    cases part with
    | nil => rfl
    | cons first more =>
        have same : first = mark := (List.cons_prefix_cons.mp begins).1
        exact absurd (inside.subset (same ▸ List.mem_cons_self)) fresh
  rw [List.infix_append_iff, List.infix_cons_iff]
  constructor
  · rintro (inFront | (begins | inRest) | ⟨first, second, rfl, ends, begins⟩)
    · exact .inl inFront
    · rw [noHead begins List.infix_rfl]
      exact .inl List.nil_infix
    · exact .inr inRest
    · have empty := noHead begins (List.suffix_append first second).isInfix
      rw [empty, List.append_nil]
      exact .inl ends.isInfix
  · rintro (inFront | inRest)
    · exact .inl inFront
    · exact .inr (.inl (.inr inRest))

end Separators

section WellFormed

variable {key : String}

/-- The colon stands behind a digit, and all other characters are digits too. -/
theorem exists_digits_of_isWellFormedId (wellFormed : isWellFormedId key = true) :
    ∃ (front second : List Char) (digit : Char), key.toList = front ++ digit :: ':' :: second ∧
      digit.isDigit = true ∧ ∀ other ∈ front ++ second, other.isDigit = true := by
  simp only [isWellFormedId] at wellFormed
  split at wellFormed
  · next second behind =>
      simp only [Bool.and_eq_true, Bool.not_eq_true', List.isEmpty_eq_false_iff,
        List.all_eq_true] at wellFormed
      obtain ⟨⟨someFirst, -⟩, digits⟩ := wellFormed
      have firstDigits : ∀ other ∈ key.toList.takeWhile Char.isDigit, other.isDigit = true :=
        fun other member => List.mem_takeWhile_imp member
      have whole : key.toList = key.toList.takeWhile Char.isDigit ++ ':' :: second := by
        rw [← behind, List.takeWhile_append_dropWhile]
      obtain empty | ⟨front, digit, split⟩ :=
        List.eq_nil_or_concat' (key.toList.takeWhile Char.isDigit)
      · exact absurd empty someFirst
      · rw [split] at firstDigits whole
        refine ⟨front, second, digit, by simpa using whole, firstDigits _ (by simp), ?_⟩
        intro other member
        rcases List.mem_append.mp member with inFront | inSecond
        · exact firstDigits other (List.mem_append_left _ inFront)
        · exact digits other inSecond
  · cases wellFormed

/-- A well-formed identifier holds digits and colons only. -/
theorem isDigit_or_eq_colon_of_mem (wellFormed : isWellFormedId key = true) {letter : Char}
    (member : letter ∈ key.toList) : letter.isDigit = true ∨ letter = ':' := by
  obtain ⟨front, second, digit, split, isDigit, others⟩ :=
    exists_digits_of_isWellFormedId wellFormed
  rw [split] at member
  simp only [List.mem_append, List.mem_cons] at member
  rcases member with inFront | rfl | same | inSecond
  · exact .inl (others _ (List.mem_append_left _ inFront))
  · exact .inl isDigit
  · exact .inr same
  · exact .inl (others _ (List.mem_append_right _ inSecond))

/-- A well-formed identifier holds no semicolon. -/
theorem semicolon_not_mem_of_isWellFormedId (wellFormed : isWellFormedId key = true) :
    ';' ∉ key.toList := fun member =>
  absurd (isDigit_or_eq_colon_of_mem wellFormed member) (by decide)

/-- A well-formed identifier is not one that an author made up. -/
theorem isPlaceholderId_eq_false (wellFormed : isWellFormedId key = true) :
    isPlaceholderId key = false := by
  have noWord {word : String} {letter : Char} (inWord : letter ∈ word.toList)
      (other : ¬(letter.isDigit = true ∨ letter = ':')) : Text.contains key word = false := by
    rw [Bool.eq_false_iff, Ne, Text.contains_iff]
    exact fun inside => other (isDigit_or_eq_colon_of_mem wellFormed (inside.subset inWord))
  have noMark : Text.contains key "_id" = false := noWord (List.mem_cons_self : '_' ∈ _) (by decide)
  have noName : Text.contains key "placeholder" = false :=
    noWord (List.mem_cons_self : 'p' ∈ _) (by decide)
  rw [isPlaceholderId, noMark, noName, wellFormed]
  rfl

end WellFormed

namespace Stage

open SceneGraph

/-- A generated identifier is its prefix and the decimal digits. -/
theorem toList_generatedHostId (id : Nat) :
    (generatedHostId id).toList = ['g', 'e', 'n', ':'] ++ Nat.toDigits 10 id := by
  simp [generatedHostId, Nat.repr]

/-- A nested identifier is that of its instance, a semicolon and that of the node. -/
theorem toList_nestedHostId (instanceId : Nat) (nodeId : String) :
    (nestedHostId (generatedHostId instanceId) nodeId).toList =
      (['I', 'g', 'e', 'n', ':'] ++ Nat.toDigits 10 instanceId) ++ ';' :: nodeId.toList := by
  simp [nestedHostId, toList_generatedHostId]

/-- The instance part of a nested identifier holds no semicolon. -/
theorem semicolon_not_mem_generated (instanceId : Nat) :
    ';' ∉ ['I', 'g', 'e', 'n', ':'] ++ Nat.toDigits 10 instanceId := by
  intro member
  rcases List.mem_append.mp member with fixed | digit
  · revert fixed
    decide
  · have isDigit := Nat.isDigit_of_mem_toDigits (by decide) (by decide) digit
    exact absurd isDigit (by decide)

/-- The end of a nested identifier is the node's own identifier or an end of it. -/
theorem endsWith_nestedHostId (instanceId : Nat) (nodeId key : String) :
    Text.endsWith (nestedHostId (generatedHostId instanceId) nodeId) (";" ++ key) = true ↔
      nodeId = key ∨ Text.endsWith nodeId (";" ++ key) = true := by
  have marked : (";" ++ key).toList = ';' :: key.toList := by simp
  rw [Text.endsWith_iff, Text.endsWith_iff, marked, toList_nestedHostId,
    suffix_append_iff_of_not_mem (semicolon_not_mem_generated instanceId), List.suffix_cons_iff]
  simp [eq_comm, String.toList_inj]

/-- A well-formed identifier is never found in the generated part. -/
theorem contains_nestedHostId (instanceId : Nat) (nodeId : String) {key : String}
    (wellFormed : isWellFormedId key = true) :
    Text.contains (nestedHostId (generatedHostId instanceId) nodeId) key =
      Text.contains nodeId key := by
  obtain ⟨front, second, digit, split, isDigit, -⟩ := exists_digits_of_isWellFormedId wellFormed
  have outside : ¬key.toList <:+: ['I', 'g', 'e', 'n', ':'] ++ Nat.toDigits 10 instanceId := by
    intro inside
    have digitColon : [digit, ':'] <:+: ['I', 'g', 'e', 'n', ':'] ++ Nat.toDigits 10 instanceId :=
      List.IsInfix.trans ⟨front, second, by rw [split]; simp⟩ inside
    simp only [List.cons_append, List.nil_append, List.infix_cons_iff,
      List.cons_prefix_cons] at digitColon
    rcases digitColon with ⟨rfl, -⟩ | ⟨rfl, -⟩ | ⟨rfl, -⟩ | ⟨rfl, -⟩ | ⟨rfl, -⟩ | inDigits
    iterate 5 exact absurd isDigit (by decide)
    have colon : ':' ∈ Nat.toDigits 10 instanceId := inDigits.subset (by simp)
    exact absurd (Nat.isDigit_of_mem_toDigits (by decide) (by decide) colon) (by decide)
  rw [Bool.eq_iff_iff, Text.contains_iff, Text.contains_iff, toList_nestedHostId,
    infix_append_cons_iff_of_not_mem (semicolon_not_mem_of_isWellFormedId wellFormed)]
  exact or_iff_right outside

/-- A nested identifier is never empty. -/
theorem nestedHostId_ne_empty (hostId nodeId : String) : nestedHostId hostId nodeId ≠ "" := by
  intro same
  have lengths := congrArg String.length same
  simp only [nestedHostId, String.length_append] at lengths
  have letter : "I".length = 1 := rfl
  have nothing : "".length = 0 := rfl
  omega

/-- A nested identifier is longer than the identifier that it ends with. -/
theorem nestedHostId_ne_self (hostId nodeId : String) : nestedHostId hostId nodeId ≠ nodeId := by
  intro same
  have lengths := congrArg String.length same
  simp only [nestedHostId, String.length_append] at lengths
  have letter : "I".length = 1 := rfl
  omega

/-- A nested identifier begins with a letter, which no well-formed identifier does. -/
theorem nestedHostId_ne_of_isWellFormedId (hostId nodeId : String) {key : String}
    (wellFormed : isWellFormedId key = true) : nestedHostId hostId nodeId ≠ key := by
  rintro rfl
  simp [isWellFormedId, nestedHostId] at wellFormed

end Stage

end DesignScene
