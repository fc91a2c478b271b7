/-
This file reads the path of a report as the steps that lead to a place of a layout.
-/
import DesignScene.Proofs.Review.Variants

namespace DesignScene.Json

open Variants

/-- A name, and the indices that stand in brackets behind it. -/
def stepsOfPart (part : List Char) : List Step :=
  match part.splitOn '[' with
  | [] => []
  | name :: indices =>
      .field (String.ofList name) :: indices.map fun index =>
        .element (Nat.ofDigitChars 10 (index.takeWhile (· != ']')) 0)

/-- The parts of a path are divided by dots. -/
def stepsOfText (text : List Char) : List Step := (text.splitOn '.').flatMap stepsOfPart

/-- The place that a path leads to. -/
def placeOf (path : String) : List Step := stepsOfText path.toList

/-- A text is split on both sides of each mark. -/
theorem splitOn_append_cons (mark : Char) (front back : List Char) :
    (front ++ mark :: back).splitOn mark = front.splitOn mark ++ back.splitOn mark :=
  List.splitOnP_append_cons front back (beq_self_eq_true mark)

theorem splitOn_of_not_mem {mark : Char} {text : List Char} (fresh : mark ∉ text) :
    text.splitOn mark = [text] := by
  apply List.splitOnP_eq_singleton
  intro character member
  exact beq_false_of_ne fun same => fresh (same ▸ member)

/-- What stands behind a dot is read on its own. -/
theorem stepsOfText_append_cons (front back : List Char) :
    stepsOfText (front ++ '.' :: back) = stepsOfText front ++ stepsOfText back := by
  rw [stepsOfText, splitOn_append_cons, List.flatMap_append]
  rfl

/-- The digits of an index end at the bracket. -/
theorem takeWhile_digits (index : Nat) :
    (Nat.toDigits 10 index ++ [']']).takeWhile (· != ']') = Nat.toDigits 10 index := by
  rw [List.takeWhile_append_of_pos]
  · simp
  · intro character member
    exact bne_iff_ne.mpr fun same => bracket_not_mem_toDigits index (same ▸ member)

/-- The text of an index holds no mark that divides paths. -/
theorem not_mem_indexText {mark : Char} (noDigit : mark.isDigit = false) (noBracket : mark ≠ ']')
    (index : Nat) : mark ∉ Nat.toDigits 10 index ++ [']'] := by
  intro member
  rcases List.mem_append.mp member with inside | last
  · have isDigit := Nat.isDigit_of_mem_toDigits (by decide) (by decide) inside
    rw [noDigit] at isDigit
    cases isDigit
  · exact noBracket (List.mem_singleton.mp last)

/-- A part of a path leads to the element with its index. -/
theorem stepsOfText_items (index : Nat) :
    stepsOfText ("items".toList ++ '[' :: (Nat.toDigits 10 index ++ [']'])) = stepsTo [index] := by
  have noDot : '.' ∉ "items".toList ++ '[' :: (Nat.toDigits 10 index ++ [']']) := by
    intro member
    rcases List.mem_append.mp member with name | behind
    · exact absurd name (by decide)
    · rcases List.mem_cons.mp behind with bracket | inside
      · exact absurd bracket (by decide)
      · exact not_mem_indexText (by decide) (by decide) index inside
  have parts : ("items".toList ++ '[' :: (Nat.toDigits 10 index ++ [']'])).splitOn '[' =
      ["items".toList, Nat.toDigits 10 index ++ [']']] := by
    rw [splitOn_append_cons, splitOn_of_not_mem (by decide),
      splitOn_of_not_mem (not_mem_indexText (by decide) (by decide) index)]
    rfl
  rw [stepsOfText, splitOn_of_not_mem noDot, List.flatMap_singleton, stepsOfPart, parts]
  simp [takeWhile_digits, stepsTo]

theorem placeOf_items (index : Nat) : placeOf (elementPath "items" index) = stepsTo [index] := by
  rw [← stepsOfText_items index, placeOf]
  simp [elementPath, Nat.repr]

/-- The path of an inner item leads to it from the item around it. -/
theorem placeOf_inner (path : String) (index : Nat) :
    placeOf (elementPath (itemsPath path) index) = placeOf path ++ stepsTo [index] := by
  rw [← stepsOfText_items index, placeOf, placeOf, ← stepsOfText_append_cons]
  simp [elementPath, itemsPath, Nat.repr]

/-- A path into the container of the root leads through this field. -/
theorem placeOf_container (index : Nat) :
    placeOf (elementPath "layoutContainer.items" index) =
      .field "layoutContainer" :: stepsTo [index] := by
  have name : placeOf "layoutContainer" = [.field "layoutContainer"] := by
    rw [placeOf, stepsOfText, splitOn_of_not_mem (by decide), List.flatMap_singleton, stepsOfPart,
      splitOn_of_not_mem (by decide)]
    rfl
  exact (placeOf_inner "layoutContainer" index).trans (congrArg (· ++ stepsTo [index]) name)

/-- A longer path goes on from the place of the shorter one. -/
theorem placeOf_below (path : String) (indices : List Nat) :
    placeOf (below path indices) = placeOf path ++ stepsTo indices := by
  induction indices generalizing path with
  | nil => exact (List.append_nil _).symm
  | cons index more ih =>
      rw [below, ih, placeOf_inner, List.append_assoc]
      rfl

example : placeOf "layoutContainer.items[2].items[10]" =
    [.field "layoutContainer", .field "items", .element 2, .field "items", .element 10] := by
  cbv

end DesignScene.Json
