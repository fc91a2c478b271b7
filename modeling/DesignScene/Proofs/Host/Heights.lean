/-
This file shows how the approximate height of a text depends on the width at which the text is wrapped, and
that a text never becomes lower when more is written behind it.
-/
import DesignScene.Host.Basic
import DesignScene.Proofs.Scalar.Exact
import DesignScene.Proofs.Text.Words
import Mathlib.Algebra.Order.BigOperators.Group.List
import Mathlib.Tactic.GCongr
import Mathlib.Tactic.Positivity

namespace DesignScene

open Scalar

variable {fontSize width narrow wide : Rat} {wrapWidth : Option Rat} {paragraph longer : List Char}
  {text : String}

/-- The height that a text has for hosts that do not measure it themselves. -/
def approximateHeight (text : String) (fontSize : Rat) (wrapWidth : Option Rat) : Rat :=
  (approximateSize text fontSize wrapWidth).2

section Paragraphs

/-- The lines that a paragraph takes. A width that is not positive wraps nothing. -/
def wrappedLines (fontSize : Rat) (wrapWidth : Option Rat) (paragraph : List Char) : Nat :=
  match wrapWidth.filter fun width => decide (0 < width) with
  | some width => max (ceilCount (paragraph.length * (fontSize * (1 / 2)) / width)) 1
  | none => 1

/-- Every paragraph takes a line at least. -/
theorem one_le_wrappedLines : 1 ≤ wrappedLines fontSize wrapWidth paragraph := by
  unfold wrappedLines
  split
  · exact Nat.le_max_right _ 1
  · exact Nat.le_refl 1

/-- A number of lines is enough as soon as the characters fit into so many widths. -/
theorem wrappedLines_le_iff (positive : 0 < width) {count : Nat} :
    wrappedLines fontSize (some width) paragraph ≤ count ↔
      1 ≤ count ∧ paragraph.length * (fontSize * (1 / 2)) ≤ count * width := by
  have wraps : (some width).filter (fun width => decide (0 < width)) = some width :=
    Option.filter_some_pos (decide_eq_true positive)
  rw [wrappedLines, wraps, Nat.max_le, ceilCount_le_iff, div_le_iff₀ positive, and_comm]

/-- The lines that are taken are enough. -/
theorem le_wrappedLines_mul (positive : 0 < width) :
    paragraph.length * (fontSize * (1 / 2)) ≤
      wrappedLines fontSize (some width) paragraph * width :=
  ((wrappedLines_le_iff positive).mp (le_refl _)).2

/-- A wider column breaks a paragraph into no more lines. -/
theorem wrappedLines_le_of_width_le (positive : 0 < narrow) (le : narrow ≤ wide) :
    wrappedLines fontSize (some wide) paragraph ≤ wrappedLines fontSize (some narrow) paragraph := by
  apply (wrappedLines_le_iff (positive.trans_le le)).mpr
  constructor
  · exact one_le_wrappedLines
  · calc
      paragraph.length * (fontSize * (1 / 2))
        ≤ wrappedLines fontSize (some narrow) paragraph * narrow := le_wrappedLines_mul positive
      _ ≤ wrappedLines fontSize (some narrow) paragraph * wide := by gcongr

/-- A longer paragraph takes no fewer lines. -/
theorem wrappedLines_le_of_length_le (nonneg : 0 ≤ fontSize)
    (le : paragraph.length ≤ longer.length) :
    wrappedLines fontSize wrapWidth paragraph ≤ wrappedLines fontSize wrapWidth longer := by
  cases wraps : wrapWidth.filter fun width => decide (0 < width) with
  | none =>
      unfold wrappedLines
      rw [wraps]
  | some width =>
      obtain ⟨rfl, isPositive⟩ := Option.filter_eq_some_iff.mp wraps
      have positive : 0 < width := of_decide_eq_true isPositive
      apply (wrappedLines_le_iff positive).mpr
      constructor
      · exact one_le_wrappedLines
      · calc
          paragraph.length * (fontSize * (1 / 2))
            ≤ longer.length * (fontSize * (1 / 2)) := by gcongr
          _ ≤ wrappedLines fontSize (some width) longer * width := le_wrappedLines_mul positive

end Paragraphs

section Texts

/-- The parts of a text between its line breaks. -/
def paragraphs (text : String) : List (List Char) := Text.pieces (· == '\n') text.toList

/-- The lines of all paragraphs together. -/
def lineCount (text : String) (fontSize : Rat) (wrapWidth : Option Rat) : Nat :=
  ((paragraphs text).map (wrappedLines fontSize wrapWidth)).sum

/-- Every paragraph takes a line of its own. -/
theorem count_lt_lineCount : text.toList.count '\n' < lineCount text fontSize wrapWidth := by
  have each : ∀ lines ∈ (paragraphs text).map (wrappedLines fontSize wrapWidth), 1 ≤ lines := by
    intro lines member
    obtain ⟨paragraph, -, rfl⟩ := List.mem_map.mp member
    exact one_le_wrappedLines
  have enough := List.length_le_sum_of_one_le _ each
  rwa [List.length_map, paragraphs, Text.length_pieces] at enough

/-- The height is that of all lines together. -/
theorem approximateHeight_eq (text : String) (fontSize : Rat) (wrapWidth : Option Rat) :
    approximateHeight text fontSize wrapWidth =
      lineCount text fontSize wrapWidth * (fontSize * (6 / 5)) := by
  have filled : max (lineCount text fontSize wrapWidth) 1 = lineCount text fontSize wrapWidth :=
    Nat.max_eq_left (Nat.lt_of_le_of_lt (Nat.zero_le _) count_lt_lineCount)
  have isZero : (ofNat 0 : Rat) = 0 := rfl
  have isHalf : (ofRatio 1 2 : Rat) = 1 / 2 := ofRatio_eq 1 2
  have isFactor : (ofRatio 6 5 : Rat) = 6 / 5 := ofRatio_eq 6 5
  rw [← filled, approximateHeight, approximateSize]
  dsimp only
  simp only [isZero, isHalf, isFactor, ofNat_eq_cast]
  cases wraps : wrapWidth.filter fun width => decide (0 < width) with
  | none =>
      have single : wrappedLines fontSize wrapWidth = fun _ => 1 := by
        funext paragraph
        rw [wrappedLines, wraps]
      rw [lineCount, single, List.map_const', List.sum_replicate_nat, Nat.mul_one, paragraphs]
  | some width =>
      have wrapped : wrappedLines fontSize wrapWidth =
          fun paragraph => max (ceilCount (paragraph.length * (fontSize * (1 / 2)) / width)) 1 := by
        funext paragraph
        rw [wrappedLines, wraps]
      rw [lineCount, wrapped, List.sum_eq_foldl, List.foldl_map, paragraphs]

/-- Fewer lines are not higher. -/
theorem approximateHeight_le (nonneg : 0 ≤ fontSize) {other : String} {otherWidth : Option Rat}
    (le : lineCount text fontSize wrapWidth ≤ lineCount other fontSize otherWidth) :
    approximateHeight text fontSize wrapWidth ≤ approximateHeight other fontSize otherWidth := by
  rw [approximateHeight_eq, approximateHeight_eq]
  gcongr

theorem lineCount_le_of_forall {otherWidth : Option Rat}
    (each : ∀ paragraph, wrappedLines fontSize wrapWidth paragraph ≤
      wrappedLines fontSize otherWidth paragraph) :
    lineCount text fontSize wrapWidth ≤ lineCount text fontSize otherWidth :=
  List.sum_le_sum fun paragraph _ => each paragraph

/-- The paragraphs of a text come again when more is written behind it, the last one perhaps longer. -/
theorem lineCount_append (nonneg : 0 ≤ fontSize) (more : String) :
    lineCount text fontSize wrapWidth ≤ lineCount (text ++ more) fontSize wrapWidth := by
  obtain ⟨longer, others, split, prefixes⟩ : ∃ longer others,
      paragraphs (text ++ more) = longer ++ others ∧ List.Forall₂ (· <+: ·) (paragraphs text) longer := by
    rw [paragraphs, String.toList_append]
    exact Text.exists_pieces_append text.toList more.toList
  rw [lineCount, lineCount, split, List.map_append, List.sum_append]
  have each : List.Forall₂ (· ≤ ·) ((paragraphs text).map (wrappedLines fontSize wrapWidth))
      (longer.map (wrappedLines fontSize wrapWidth)) := by
    rw [List.forall₂_map_left_iff, List.forall₂_map_right_iff]
    exact prefixes.imp fun _ _ isPrefix => wrappedLines_le_of_length_le nonneg isPrefix.length_le
  exact Nat.le_add_right_of_le each.sum_le_sum

end Texts

/-- A wider column makes a text lower, and the height is that of its lines, which more text never lowers. -/
theorem height_falls_with_width (text : String) (nonneg : 0 ≤ fontSize) :
    (∀ narrow wide, 0 < narrow → narrow ≤ wide →
      approximateHeight text fontSize (some wide) ≤ approximateHeight text fontSize (some narrow) ∧
        approximateHeight text fontSize none ≤ approximateHeight text fontSize (some wide)) ∧
      ∀ wrapWidth,
        approximateHeight text fontSize wrapWidth =
            lineCount text fontSize wrapWidth * (fontSize * (6 / 5)) ∧
          text.toList.count '\n' + 1 ≤ lineCount text fontSize wrapWidth ∧
            ∀ more, approximateHeight text fontSize wrapWidth ≤
              approximateHeight (text ++ more) fontSize wrapWidth := by
  constructor
  · intro narrow wide positive le
    constructor
    · apply approximateHeight_le nonneg
      exact lineCount_le_of_forall fun _ => wrappedLines_le_of_width_le positive le
    · apply approximateHeight_le nonneg
      exact lineCount_le_of_forall fun _ => one_le_wrappedLines
  · intro wrapWidth
    refine ⟨approximateHeight_eq text fontSize wrapWidth, count_lt_lineCount, ?_⟩
    intro more
    exact approximateHeight_le nonneg (lineCount_append nonneg more)

/-- Two paragraphs of ten and of four characters, each 5 wide. The first one just fits a width of 50. -/
theorem two_paragraphs_wrapped :
    (0 : Rat) ≤ 10 ∧ (0 : Rat) < 49 ∧ (49 : Rat) ≤ 50 ∧
      approximateHeight "0123456789\n0123" 10 (some 49) = 36 ∧
      approximateHeight "0123456789\n0123" 10 (some 50) = 24 ∧
      approximateHeight "0123456789\n0123" 10 none = 24 ∧
      approximateHeight "0123456789\n0123" 10 (some 50) ≤
        approximateHeight "0123456789\n0123" 10 (some 49) ∧
      approximateHeight "0123456789\n0123" 10 none ≤
        approximateHeight "0123456789\n0123" 10 (some 50) ∧
      approximateHeight "0123456789\n0123" 10 (some 49) ≤
        approximateHeight ("0123456789\n0123" ++ "4\n") 10 (some 49) := by
  have nonneg : (0 : Rat) ≤ 10 := by decide
  have positive : (0 : Rat) < 49 := by decide
  have le : (49 : Rat) ≤ 50 := by decide
  obtain ⟨widths, texts⟩ := height_falls_with_width "0123456789\n0123" nonneg
  obtain ⟨lower, lowest⟩ := widths 49 50 positive le
  exact ⟨nonneg, positive, le, by decide +kernel, by decide +kernel, by decide +kernel, lower, lowest,
    (texts (some 49)).2.2 "4\n"⟩

end DesignScene
